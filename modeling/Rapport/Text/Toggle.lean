set_option autoImplicit false

/-! # Classes of characters as lists of boundaries

A class of characters is written down as the ascending list of the code points where membership
changes: the class holds from the first boundary up to the second, from the third up to the fourth,
and so on. `Toggle.holds` reads such a list. -/

namespace Rapport.Text

/-- The class that holds at a code point `n` iff an odd number of the ascending boundaries lie at
    or below `n`. -/
def Toggle.holds : List Nat → Nat → Bool
  | [], _ => false
  | b :: rest, n => if n < b then false else !Toggle.holds rest n

end Rapport.Text
