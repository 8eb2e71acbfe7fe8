import Rapport.Numeral.Binary64

set_option autoImplicit false

/-! # The shortest text of a double

A double is written with the fewest digits that read back as the same double, and of the numerals
with that many digits as the one nearest to it. Numbers from `0.0001` up to below `10 ^ 16` are
written in positional notation, others with an exponent. -/

namespace Rapport.Numeral

/-- The power of ten just above a positive double: the least `k` with `x < 10 ^ k`. -/
def decimalPoint (x : Rat) : Int :=
  match (List.range 700).find? fun i : Nat => decide (x < (10 : Rat) ^ ((i : Int) - 350)) with
  | some i => (i : Int) - 350
  | none => 350

/-- The multiple of `10 ^ e` next to `x` that reads back as `x`, if there is one: the nearer of the
    two neighbours first, and of two equally near the even one. -/
def onGrid (x : Rat) (e : Int) : Option Nat :=
  let unit := (10 : Rat) ^ e
  let below := (x / unit).floor.toNat
  let readsBack (n : Nat) : Bool := nearest (n * unit) == x
  let candidates := if roundEven (x / unit) = below
    then [below, below + 1] else [below + 1, below]
  candidates.find? readsBack

/-- The fewest digits that read back as the positive double `x`, and the power of ten of the point
    in front of them. Seventeen digits always suffice. -/
def shortestDigits (x : Rat) : List Char × Int :=
  let k := decimalPoint x
  let found := (List.range 17).findSome? fun i => (onGrid x (k - (i + 1 : Nat))).map ((i + 1, ·))
  match found with
  | none => (['0'], 0)
  | some (count, n) =>
    let ds := Nat.toDigits 10 n
    let carried : Int := (ds.length : Int) - (count : Nat)
    ((ds.reverse.dropWhile (· = '0')).reverse, k + carried)

/-- The exponent of a numeral: its sign and at least two digits. -/
def exponentText (e : Int) : List Char :=
  let ds := Nat.toDigits 10 e.natAbs
  (if e < 0 then '-' else '+') :: (List.replicate (2 - ds.length) '0' ++ ds)

/-- Write the digits `ds` of a number `0.ds * 10 ^ point`. -/
def layOut (ds : List Char) (point : Int) : List Char :=
  if -4 < point ∧ point ≤ 16 then
    if point ≤ 0 then '0' :: '.' :: List.replicate (-point).toNat '0' ++ ds
    else if (ds.length : Int) ≤ point then
      ds ++ List.replicate (point.toNat - ds.length) '0' ++ ['.', '0']
    else ds.take point.toNat ++ '.' :: ds.drop point.toNat
  else
    let mantissa := match ds with
      | [] | [_] => ds
      | d :: rest => d :: '.' :: rest
    mantissa ++ 'e' :: exponentText (point - 1)

/-- The shortest text of a double. -/
def Binary64.text : Binary64 → String
  | .finite negative size =>
    let body := if size = 0 then ['0', '.', '0']
      else layOut (shortestDigits size).1 (shortestDigits size).2
    String.ofList (if negative then '-' :: body else body)
  | .infinite negative => if negative then "-inf" else "inf"
  | .nan _ => "nan"

end Rapport.Numeral
