import Rapport.Text.Letter

set_option autoImplicit false

/-! # Lower-casing

Names are compared without regard to case by comparing their lower case, which follows the full
Unicode rules: every capital becomes its small letter, a dotted capital I becomes an `i` with the
dot as a mark of its own, and a capital sigma is written in its final form when it closes a word.

`lowerASCII` is the weaker folding of `A` to `Z` alone. -/

namespace Rapport.Text

/-- Whether the nearest character that counts is a letter with case. -/
def opensWithCased (cs : List Char) : Bool :=
  match cs.dropWhile isCaseIgnorable with
  | [] => false
  | c :: _ => isCased c

/-- Lower-case a text whose preceding part ends in a letter with case iff `inWord`. A capital sigma
    is final iff a letter comes before it and none comes after it. -/
def lowerFrom : Bool → List Char → List Char
  | _, [] => []
  | inWord, c :: rest =>
    let after := lowerFrom (if isCaseIgnorable c then inWord else isCased c) rest
    if c = 'Σ' then (if inWord && !opensWithCased rest then 'ς' else 'σ') :: after
    else if c = 'İ' then 'i' :: '\u0307' :: after
    else lowerLetter c :: after

/-- The lower case of a text. -/
def lower (s : String) : String := String.ofList (lowerFrom false s.toList)

/-- The lower case of a character among `A` to `Z`; every other character unchanged. -/
def lowerASCIIChar (c : Char) : Char := if 'A' ≤ c ∧ c ≤ 'Z' then Char.ofNat (c.toNat + 32) else c

/-- A text with `A` to `Z` lower-cased and all else unchanged. -/
def lowerASCII (s : String) : String := String.ofList (s.toList.map lowerASCIIChar)

end Rapport.Text
