set_option autoImplicit false

/-! # Blanks

Two classes of blank characters. `isWhite` is the property `White_Space`, which separates numerals
from what surrounds them; `isBlank` adds the four information separators, which are cut from the
ends of names and addresses as well. -/

namespace Rapport.Text

/-- The white space characters of all scripts. -/
def isWhite (c : Char) : Bool :=
  let n := c.toNat
  (0x9 ≤ n && n ≤ 0xD) || n == 0x20 || n == 0x85 || n == 0xA0 || n == 0x1680
    || (0x2000 ≤ n && n ≤ 0x200A) || n == 0x2028 || n == 0x2029 || n == 0x202F || n == 0x205F
    || n == 0x3000

/-- White space or one of the four information separators. -/
def isBlank (c : Char) : Bool := isWhite c || (0x1C ≤ c.toNat && c.toNat ≤ 0x1F)

theorem isBlank_of_isWhite {c : Char} (h : isWhite c = true) : isBlank c = true := by
  simp [isBlank, h]

/-- Cut the characters that satisfy `p` from the right end. -/
def trimEnd (p : Char → Bool) (cs : List Char) : List Char := (cs.reverse.dropWhile p).reverse

/-- Cut the characters that satisfy `p` from both ends. -/
def trim (p : Char → Bool) (cs : List Char) : List Char := trimEnd p (cs.dropWhile p)

/-- Cut the blanks from both ends of a text. -/
def strip (s : String) : String := String.ofList (trim isBlank s.toList)

end Rapport.Text
