import Rapport.Text.Lower

set_option autoImplicit false

/-! # Patterns

Patterns of the database language, in which one sign stands for any text and another for any one
character. The characters of a text that would be signs are escaped where it is meant as it is.
A pattern is compared without regard to the case of `A` to `Z`.

Pattern and text both end at their first character of code zero, so a pattern cut short there ends
without the sign for any text. The last two code points of the first plane, which are no characters,
are taken for the replacement character. A pattern may have 50000 bytes. -/

namespace Rapport.Sql

/-- A piece of a pattern. -/
inductive Wild
  /-- Any text, the empty one as well. -/
  | text
  /-- Any one character. -/
  | one
  /-- A character, in either case if it is one of `A` to `Z`. -/
  | exactly (c : Char)
deriving DecidableEq, Repr

/-- Whether some end of a text satisfies `p`. -/
def anyEnd (p : List Char → Bool) : List Char → Bool
  | [] => p []
  | c :: cs => p (c :: cs) || anyEnd p cs

namespace Wild

/-- Whether a text fits a pattern. -/
def fits : List Wild → List Char → Bool
  | [], cs => cs.isEmpty
  | .text :: pattern, cs => anyEnd (fits pattern) cs
  | .one :: _, [] => false
  | .one :: pattern, _ :: cs => fits pattern cs
  | .exactly _ :: _, [] => false
  | .exactly c :: pattern, d :: cs =>
    Text.lowerASCIIChar c == Text.lowerASCIIChar d && fits pattern cs

/-- Read a pattern in which `escape` takes away the meaning of the sign that follows it. -/
def read (escape : Char) : List Char → List Wild
  | [] => []
  | c :: rest =>
    if c = escape then
      match rest with
      | [] => [.exactly escape]
      | d :: rest' => .exactly d :: read escape rest'
    else if c = '%' then .text :: read escape rest
    else if c = '_' then .one :: read escape rest
    else .exactly c :: read escape rest

/-- A text with its signs escaped. -/
def escaped (escape : Char) (cs : List Char) : List Char :=
  cs.flatMap fun c => if c = escape ∨ c = '%' ∨ c = '_' then [escape, c] else [c]

/-- The part of a text that patterns are compared with. -/
def seen (cs : List Char) : List Char :=
  (cs.takeWhile (· ≠ '\x00')).map fun c =>
    if c.toNat = 0xFFFE ∨ c.toNat = 0xFFFF then '\uFFFD' else c

/-- How the pattern of the texts that begin with a given one is written. -/
def opening (start : String) : List Char := escaped '/' start.toList ++ ['%']

/-- The pattern of the texts that begin with a given one. -/
def beginningWith (start : String) : List Wild := read '/' (seen (opening start))

/-- The greatest length of a pattern, in bytes. -/
def maxLength : Nat := 50000

/-- Whether the pattern of the texts that begin with a given one is short enough. -/
def isUsable (start : String) : Bool := (String.ofList (opening start)).utf8ByteSize ≤ maxLength

end Wild

/-- Whether a text begins with another one, as the database compares them. -/
def startsLike (start text : String) : Bool :=
  Wild.fits (Wild.beginningWith start) (Wild.seen text.toList)

end Rapport.Sql
