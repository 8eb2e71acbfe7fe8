import Rapport.Keyed
import Rapport.Text.Blank

set_option autoImplicit false

/-! # Files of variables

A file of variables holds statements such as

    export NAME = value   # comment

one per line, though quoted values may span lines. `bindings` reads the statements of a file, and
`resolve` replaces the references in their values. A statement that cannot be read is dropped with
the rest of its line.

Every scanner here takes a text off the front of a list of characters. A statement takes at least
one character of a file that is not all blank, and the rest of a line takes what the statement has
left, so the loop over a file ends. -/

namespace Rapport.EnvFile

open Rapport.Text

/-! ## Scanning -/

/-- A character that ends a line. -/
def endsLine (c : Char) : Bool := c == '\n' || c == '\r'

/-- A blank that ends no line. -/
def isGap (c : Char) : Bool := isBlank c && !endsLine c

/-- Every way to end a line becomes a line feed. -/
def unifyLineEnds : List Char → List Char
  | [] => []
  | '\r' :: '\n' :: rest => '\n' :: unifyLineEnds rest
  | c :: rest => (if c = '\r' then '\n' else c) :: unifyLineEnds rest

/-- The text of a file: without a byte order mark, and with line feeds at the ends of lines. -/
def fileText (text : String) : List Char :=
  match text.toList with
  | '\uFEFF' :: rest => unifyLineEnds rest
  | cs => unifyLineEnds cs

/-- What follows the gaps. -/
def afterGaps (cs : List Char) : List Char := cs.dropWhile isGap

/-- What follows the rest of a line, its end included. -/
def afterLine (cs : List Char) : List Char :=
  match cs.dropWhile (!endsLine ·) with
  | [] => []
  | _ :: rest => rest

/-- What follows the word that may introduce a statement. It counts only if a gap follows it. -/
def afterExport (cs : List Char) : List Char :=
  let word := "export".toList
  if word.isPrefixOf cs then
    match cs.drop word.length with
    | c :: rest => if isGap c then afterGaps rest else cs
    | [] => cs
  else cs

/-! ## Parts of a statement -/

/-- Where reading a statement has led: a part with what follows it, or the place where it failed. -/
inductive Part (α : Type)
  | read (a : α) (rest : List Char)
  | failed (rest : List Char)

/-- The name that a statement sets. A comment in its place is none. -/
def readName (cs : List Char) : Part (Option (List Char)) :=
  match cs with
  | '#' :: _ => .read none cs
  | '\'' :: inner =>
    match inner.dropWhile (· ≠ '\'') with
    | '\'' :: rest =>
      if (inner.takeWhile (· ≠ '\'')).isEmpty then .failed cs
      else .read (some (inner.takeWhile (· ≠ '\''))) rest
    | _ => .failed cs
  | _ =>
    let inName (c : Char) : Bool := c ≠ '=' && c ≠ '#' && !isBlank c
    if (cs.takeWhile inName).isEmpty then .failed cs
    else .read (some (cs.takeWhile inName)) (cs.dropWhile inName)

/-- The text up to the quote that closes it, and what follows. A backslash takes the character after
    it along, so a quote behind one closes nothing. -/
def upToQuote (quote : Char) : List Char → Option (List Char × List Char)
  | [] | ['\\'] => none
  | '\\' :: c :: rest =>
    match upToQuote quote rest with
    | some (text, after) => some ('\\' :: c :: text, after)
    | none => none
  | c :: rest =>
    if c = quote then some ([], rest)
    else
      match upToQuote quote rest with
      | some (text, after) => some (c :: text, after)
      | none => none

/-- The escapes of a value between single quotes. -/
def singleEscapes : List (Char × Char) := [('\\', '\\'), ('\'', '\'')]

/-- The escapes of a value between double quotes. -/
def doubleEscapes : List (Char × Char) :=
  [('\\', '\\'), ('\'', '\''), ('"', '"'), ('a', '\x07'), ('b', '\x08'), ('f', '\x0c'),
    ('n', '\n'), ('r', '\r'), ('t', '\t'), ('v', '\x0b')]

/-- Replace the escapes of a value; a backslash before any other character stays. -/
def unescape (escapes : List (Char × Char)) : List Char → List Char
  | [] => []
  | '\\' :: c :: rest =>
    match escapes.lookup c with
    | some d => d :: unescape escapes rest
    | none => '\\' :: unescape escapes (c :: rest)
  | c :: rest => c :: unescape escapes rest

/-- A value without quotes, up to a comment that a blank sets off. -/
def uncommented : List Char → List Char
  | [] => []
  | c :: rest =>
    if isBlank c && (rest.dropWhile isBlank).head? == some '#' then [] else c :: uncommented rest

/-- The value that follows an equals sign and the gaps behind it; `gap` tells whether there were
    any. -/
def readValue (gap : Bool) (cs : List Char) : Part (List Char) :=
  match cs with
  | [] => .read [] cs
  | c :: inner =>
    if c = '\'' then
      match upToQuote '\'' inner with
      | some (text, rest) => .read (unescape singleEscapes text) rest
      | none => .failed cs
    else if c = '"' then
      match upToQuote '"' inner with
      | some (text, rest) => .read (unescape doubleEscapes text) rest
      | none => .failed cs
    else if endsLine c || (gap && c == '#') then .read [] cs
    else
      let line := cs.takeWhile (!endsLine ·)
      .read (trimEnd isBlank (uncommented line)) (cs.dropWhile (!endsLine ·))

/-- The value of a statement whose name has been read. Without an equals sign there is none. -/
def readAssignment (cs : List Char) : Part (Option (List Char)) :=
  match cs with
  | '=' :: rest =>
    match readValue (rest.head?.any isGap) (afterGaps rest) with
    | .read value rest => .read (some value) rest
    | .failed rest => .failed rest
  | _ => .read none cs

/-- The end of a statement: a comment, if there is one, and the end of the line. -/
def readEnd (cs : List Char) : Part Unit :=
  let cs := match afterGaps cs with
    | '#' :: rest => rest.dropWhile (!endsLine ·)
    | _ => cs
  match afterGaps cs with
  | [] => .read () []
  | c :: rest => if endsLine c then .read () rest else .failed cs

/-- A name with its value, if it is given one. -/
abbrev Binding : Type := List Char × Option (List Char)

/-- Read the statement at the beginning of a text that opens with no blank: the binding that it
    makes, if it makes one, and what follows it. -/
def readStatement (cs : List Char) : Option Binding × List Char :=
  match readName (afterExport cs) with
  | .failed rest => (none, afterLine rest)
  | .read name rest =>
    match readAssignment (afterGaps rest) with
    | .failed rest => (none, afterLine rest)
    | .read value rest =>
      match readEnd rest with
      | .failed rest => (none, afterLine rest)
      | .read () rest => (name.map (·, value), rest)

/-- The bindings of a text, read in at most `fuel` statements. -/
def bindingsWithin : Nat → List Char → List Binding
  | 0, _ => []
  | fuel + 1, cs =>
    match cs.dropWhile isBlank with
    | [] => []
    | c :: rest =>
      let (binding, after) := readStatement (c :: rest)
      binding.toList ++ bindingsWithin fuel after

/-- The bindings of a file, in order. A file has no more statements than characters. -/
def bindings (text : String) : List Binding :=
  let cs := fileText text
  bindingsWithin (cs.length + 1) cs

/-! ## References -/

/-- A piece of a value. -/
inductive Piece
  | text (c : Char)
  /-- The value of a variable, or another one where the variable is not set. -/
  | reference (name : List Char) (default : List Char)
deriving DecidableEq, Repr

/-- Read the reference behind a dollar sign and an opening brace, and what follows it. -/
def readReference (cs : List Char) : Option (Piece × List Char) :=
  let name := cs.takeWhile fun c => c ≠ '\x7d' && c ≠ ':'
  match cs.dropWhile fun c => c ≠ '\x7d' && c ≠ ':' with
  | ':' :: '-' :: rest =>
    match rest.dropWhile (· ≠ '\x7d') with
    | _ :: after => some (.reference name (rest.takeWhile (· ≠ '\x7d')), after)
    | [] => none
  | '\x7d' :: after => some (.reference name [], after)
  | _ => none

/-- The pieces of a value, read in at most `fuel` steps. -/
def piecesWithin : Nat → List Char → List Piece
  | 0, _ => []
  | _, [] => []
  | fuel + 1, c :: rest =>
    let plain := Piece.text c :: piecesWithin fuel rest
    if c = '$' then
      match rest with
      | '\x7b' :: inner =>
        match readReference inner with
        | some (piece, after) => piece :: piecesWithin fuel after
        | none => plain
      | _ => plain
    else plain

/-- The pieces of a value. Each takes at least one character. -/
def pieces (value : List Char) : List Piece := piecesWithin value.length value

/-- The text of a piece, given the values of variables. -/
def Piece.resolve (lookup : String → Option String) : Piece → String
  | text c => String.singleton c
  | reference name default => (lookup (String.ofList name)).getD (String.ofList default)

/-- The variables of a file: each name with its last value, with references replaced. A reference is
    to an earlier name of the file, even to one without a value, or else to a variable of the
    environment. -/
def resolve (environment : String → Option String) (bindings : List Binding) :
    Keyed String (Option String) :=
  bindings.foldl
    (fun known binding =>
      let lookup (name : String) : Option String :=
        match known.find? name with
        | some value => some (value.getD "")
        | none => environment name
      let value := binding.2.map fun v => String.join ((pieces v).map (Piece.resolve lookup))
      known.insert (String.ofList binding.1) value)
    .empty

end Rapport.EnvFile
