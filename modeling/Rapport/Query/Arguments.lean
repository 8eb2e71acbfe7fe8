import Rapport.Channel.Catalogue
import Rapport.Numeral.Lenient
import Rapport.Numeral.Word64
import Rapport.Query

set_option autoImplicit false

/-! # Queries from arguments

A query may be put together from arguments of any kind. `Query.ofArguments` reads each argument as
leniently as its meaning allows (a numeral for a number, a word for a truth value, a name for a
channel) and reports every argument that it cannot read, in the order in which a query lists
them. -/

namespace Rapport

namespace Query

/-- An argument of any kind. -/
inductive Value
  | null
  | truth (b : Bool)
  | integer (n : Int)
  | real (d : Numeral.Binary64)
  | text (s : String)
  | list (items : List Value)
  | object (fields : List (String × Value))
  /-- A channel that exists already. -/
  | channel (c : Channel)
deriving Inhabited

/-- Arguments by name. -/
abbrev Arguments : Type := List (String × Value)

/-- What is wrong with an argument. -/
inductive Problem
  | missing
  | notObject
  | notList
  | tooShort
  | notText
  | notInteger
  | unreadableInteger
  | fractionalInteger
  | infiniteInteger
  | hugeInteger
  | tooSmall
  | notTruth
  | unreadableTruth
  | notChannel
  /-- The argument is a name, and names no channel. -/
  | unknownChannel (name : String)
  /-- A query cannot be changed. -/
  | frozen
deriving DecidableEq, Repr

/-- The code of a problem. -/
def Problem.code : Problem → String
  | missing => "missing"
  | notObject => "model_type"
  | notList => "list_type"
  | tooShort => "too_short"
  | notText => "string_type"
  | notInteger => "int_type"
  | unreadableInteger => "int_parsing"
  | fractionalInteger => "int_from_float"
  | infiniteInteger => "finite_number"
  | hugeInteger => "int_parsing_size"
  | tooSmall => "greater_than_equal"
  | notTruth => "bool_type"
  | unreadableTruth => "bool_parsing"
  | notChannel => "dataclass_type"
  | unknownChannel _ => "value_error"
  | frozen => "frozen_instance"

/-- The words for a problem, where its code does not say all. -/
def Problem.words? : Problem → Option String
  | unknownChannel name => some s!"Value error, {(Failure.unknownChannel name).message}"
  | _ => none

/-- A step on the way to a part of the arguments. -/
inductive Segment
  | field (name : String)
  | item (index : Nat)
deriving DecidableEq, Repr

/-- A problem and where it is. -/
structure Issue where
  problem : Problem
  path : List Segment
deriving DecidableEq, Repr

/-- Something read, or what is wrong with it. -/
abbrev Reading (α : Type) : Type := Except (List Issue) α

/-- A reading that fails at one place. -/
def refuse {α : Type} (path : List Segment) (problem : Problem) : Reading α :=
  .error [⟨problem, path⟩]

/-- The problems of a reading. -/
def issues {α : Type} : Reading α → List Issue
  | .ok _ => []
  | .error found => found

/-! ## Numbers and truth values -/

/-- Read an integer. A double must be one, and not a large one. -/
def readInteger (path : List Segment) : Value → Reading Int
  | .integer n => .ok n
  | .truth b => .ok (if b then 1 else 0)
  | .real (.finite negative size) =>
    if size.den ≠ 1 then refuse path .fractionalInteger
    else if size.num < 0x8000000000000000 then .ok (if negative then -size.num else size.num)
    else refuse path .hugeInteger
  | .real _ => refuse path .infiniteInteger
  | .text s =>
    match Numeral.readLenient s with
    | .ok n => .ok n
    | .error .malformed => refuse path .unreadableInteger
    | .error .tooLong => refuse path .hugeInteger
  | _ => refuse path .notInteger

/-- Read an integer that is not negative. -/
def readNatural (path : List Segment) (v : Value) : Reading Nat := do
  let n ← readInteger path v
  if n < 0 then refuse path .tooSmall else .ok n.toNat

/-- The words for true. -/
def trueWords : List String := ["1", "true", "t", "yes", "y", "on"]

/-- The words for false. -/
def falseWords : List String := ["0", "false", "f", "no", "n", "off"]

/-- Read a truth value off an integer. One that is no word of 64 bits is not even considered. -/
def readBit (path : List Segment) (considered : Bool) (n : Int) : Reading Bool :=
  if n = 1 then .ok true
  else if n = 0 then .ok false
  else refuse path (if considered then .unreadableTruth else .notTruth)

/-- Read a truth value: a word for it in any case, or one or zero. -/
def readTruth (path : List Segment) : Value → Reading Bool
  | .truth b => .ok b
  | .text s =>
    if trueWords.contains (Text.lowerASCII s) then .ok true
    else if falseWords.contains (Text.lowerASCII s) then .ok false
    else refuse path .unreadableTruth
  | .integer n => readBit path (Numeral.Word64.holds n) n
  | .real (.finite negative size) =>
    if size.den ≠ 1 then refuse path .notTruth
    else
      let n := if negative then -size.num else size.num
      readBit path (Numeral.Word64.encloses n) n
  | _ => refuse path .notTruth

/-! ## Texts and lists -/

def readText (path : List Segment) : Value → Reading String
  | .text s => .ok s
  | _ => refuse path .notText

/-- Read the items of a list, the first of which has the given index. -/
def readItems (path : List Segment) : Nat → List Value → Reading (List String)
  | _, [] => .ok []
  | index, v :: rest =>
    match readText (path ++ [.item index]) v, readItems path (index + 1) rest with
    | .ok s, .ok ss => .ok (s :: ss)
    | first, more => .error (issues first ++ issues more)

/-- Read the addresses asked about, of which there is at least one. -/
def readContacts (path : List Segment) : Value → Reading (List String)
  | .list [] => refuse path .tooShort
  | .list items => readItems path 0 items
  | _ => refuse path .notList

/-! ## Channels -/

/-- The field of an object, or what `read` makes of it. -/
def requireField {α : Type} (fields : Arguments) (path : List Segment) (name : String)
    (read : List Segment → Value → Reading α) : Reading α :=
  match fields.lookup name with
  | some v => read (path ++ [.field name]) v
  | none => refuse (path ++ [.field name]) .missing

/-- Read a channel: by its name, as an object with a name and a weight, or as it is. -/
def readChannel (path : List Segment) : Value → Reading (Option Channel)
  | .null => .ok none
  | .channel c => .ok (some c)
  | .text name =>
    match Catalogue.mail.find? name with
    | some c => .ok (some c)
    | none => refuse path (.unknownChannel name)
  | .object fields =>
    match requireField fields path "name" readText,
      requireField fields path "weight" readInteger with
    | .ok name, .ok weight => .ok (some (.named name weight))
    | name, weight => .error (issues name ++ issues weight)
  | _ => refuse path .notChannel

/-! ## Whole queries -/

/-- The word that stands for all channels in place of a channel. -/
def allWord : String := "all"

/-- Replace the word for all channels by what it means: no channel, and all of them. -/
def expandAll (args : Arguments) : Arguments :=
  match args.lookup "edge_type" with
  | some (.text name) =>
    if Text.lower name = allWord then
      [("edge_type", .null), ("all_edges", .truth true)]
        ++ args.filter fun a => a.1 ≠ "edge_type" && a.1 ≠ "all_edges"
    else args
  | _ => args

/-- Read an argument that may be null. -/
def orNull {α : Type} (read : List Segment → Value → Reading α) (path : List Segment) :
    Value → Reading (Option α)
  | .null => .ok none
  | v => some <$> read path v

/-- An argument that may be left out. -/
def optionalField {α : Type} (args : Arguments) (name : String) (default : α)
    (read : List Segment → Value → Reading α) : Reading α :=
  match args.lookup name with
  | some v => read [.field name] v
  | none => .ok default

/-- The query of some arguments, or everything that is wrong with them. Arguments of other names do
    not matter. -/
def ofArguments (args : Arguments) : Reading Query :=
  let args := expandAll args
  let contacts := requireField args [] "contacts" readContacts
  let source := optionalField args "data_source_id" none (orNull readText)
  let channel := optionalField args "edge_type" none readChannel
  let allChannels := optionalField args "all_edges" false readTruth
  let lowerBound := optionalField args "lower_bound" 1 readNatural
  let updateCutoff := optionalField args "update_cutoff" none (orNull readInteger)
  let limit := optionalField args "num_results" 0 readNatural
  match contacts, source, channel, allChannels, lowerBound, updateCutoff, limit with
  | .ok contacts, .ok source, .ok channel, .ok allChannels, .ok lowerBound, .ok updateCutoff,
    .ok limit => .ok { contacts, source, channel, allChannels, lowerBound, updateCutoff, limit }
  | _, _, _, _, _, _, _ =>
    .error (issues contacts ++ issues source ++ issues channel ++ issues allChannels
      ++ issues lowerBound ++ issues updateCutoff ++ issues limit)

/-- The query of a value, which has to hold arguments by name. -/
def ofValue : Value → Reading Query
  | .object args => ofArguments args
  | _ => refuse [] .notObject

/-- What comes of changing a field of a query: it cannot be changed. -/
def assign (_q : Query) (name : String) : Reading Query := refuse [.field name] .frozen

end Query

end Rapport
