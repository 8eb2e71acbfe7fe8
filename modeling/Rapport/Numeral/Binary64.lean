set_option autoImplicit false

/-! # Double-precision numbers

Numbers with 53 significant bits, kept as exact rationals: a finite `Binary64` is a sign and the
rational that it stands for, so what a computation with doubles yields is "the exact result, rounded
by `nearest`". `bits` gives the 64-bit word of a number. -/

namespace Rapport.Numeral

/-! ## Rounding -/

/-- The integer nearest to `x`; of two equally near the even one. -/
def roundEven (x : Rat) : Int :=
  let below := x.floor
  let rest := x - below
  if rest < 1 / 2 then below
  else if 1 / 2 < rest then below + 1
  else if below % 2 = 0 then below else below + 1

/-- The exponent `e` with `2 ^ e ≤ x < 2 ^ (e + 1)`, for a positive `x`. -/
def floorLog2 (x : Rat) : Int :=
  let guess : Int := (x.num.toNat.log2 : Int) - (x.den.log2 : Int)
  if (2 : Rat) ^ guess ≤ x then guess else guess - 1

/-- The exponent of the last of the 53 bits of a positive `x`. It is never below -1074, so small
    numbers have fewer bits. -/
def lastBit (x : Rat) : Int := max (floorLog2 x - 52) (-1074)

/-- The multiple of `2 ^ e` nearest to `x`, a tie going to the even one. -/
def roundAt (e : Int) (x : Rat) : Rat := roundEven (x / (2 : Rat) ^ e) * (2 : Rat) ^ e

/-- The number with 53 significant bits nearest to `x`, a tie going to the even one. The exponent
    has no upper limit here. -/
def nearest (x : Rat) : Rat :=
  if x = 0 then 0
  else if x < 0 then -roundAt (lastBit (-x)) (-x)
  else roundAt (lastBit x) x

/-- The integer part of `x`: the fraction is dropped. -/
def truncate (x : Rat) : Int := if x < 0 then -(-x).floor else x.floor

/-! ## Numbers with their special values -/

/-- A double: a finite number with its sign and size, an infinity, or not a number. -/
inductive Binary64
  | finite (negative : Bool) (size : Rat)
  | infinite (negative : Bool)
  | nan (negative : Bool)
deriving DecidableEq

namespace Binary64

/-- The double nearest to a number given by its sign and size. A size that rounds to `2 ^ 1024` or
    more is infinite. -/
def round (negative : Bool) (size : Rat) : Binary64 :=
  let r := nearest size
  if (2 : Rat) ^ (1024 : Nat) ≤ r then .infinite negative else .finite negative r

/-- The double nearest to a natural number. -/
def ofNat (n : Nat) : Binary64 := round false n

/-- Whether a double is above zero. Not a number is not. -/
def isPositive : Binary64 → Bool
  | finite negative size => !negative && decide (0 < size)
  | infinite negative => !negative
  | nan _ => false

/-- Whether a double is zero or below. Not a number is not. -/
def isNonpositive : Binary64 → Bool
  | finite negative size => negative || decide (size = 0)
  | infinite negative => negative
  | nan _ => false

/-- The bits below the sign: eleven of the exponent, then 52 of the fraction. -/
def lowBits : Binary64 → Nat
  | finite _ size =>
    if size = 0 then 0
    else
      let e := lastBit size
      let m := (size / (2 : Rat) ^ e).floor.toNat
      if m < 1 <<< 52 then m else ((e + 1075).toNat <<< 52) + (m - 1 <<< 52)
  | infinite _ => 0x7FF <<< 52
  | nan _ => (0x7FF <<< 52) + (1 <<< 51)

def isNegative : Binary64 → Bool
  | finite negative _ | infinite negative | nan negative => negative

/-- The 64-bit word of a double. -/
def bits (d : Binary64) : Nat := (if d.isNegative then 1 <<< 63 else 0) + d.lowBits

end Binary64

end Rapport.Numeral
