set_option autoImplicit false

/-! # Integers of 64 bits

The integers that a signed word of 64 bits can hold, and those strictly inside their range. -/

namespace Rapport.Numeral.Word64

/-- The least integer of 64 bits. -/
def least : Int := -9223372036854775808

/-- The greatest integer of 64 bits. -/
def greatest : Int := 9223372036854775807

/-- Whether an integer has 64 bits. -/
def holds (n : Int) : Bool := decide (least ≤ n) && decide (n ≤ greatest)

/-- Whether an integer lies strictly inside the range. -/
def encloses (n : Int) : Bool := decide (least < n) && decide (n < greatest)

theorem holds_of_encloses {n : Int} (h : encloses n = true) : holds n = true := by
  simp only [encloses, holds, Bool.and_eq_true, decide_eq_true_eq] at *
  omega

end Rapport.Numeral.Word64
