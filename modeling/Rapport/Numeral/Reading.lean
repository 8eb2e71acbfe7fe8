import Rapport.Numeral.Binary64
import Rapport.Text.Blank
import Rapport.Text.Digit

set_option autoImplicit false

/-! # Reading numerals

How integers and decimal numbers are read from text. Both may stand between white space, carry a
sign, use the decimal digits of any script, and part their digits by single underscores.
`readInt` accepts at most 4300 digits. `readDecimal` adds a fraction, an exponent and the names of
the special values, and rounds to the nearest double. -/

namespace Rapport.Numeral

open Rapport.Text

/-- The longest integer numeral that is read, in digits. -/
def maxDigits : Nat := 4300

/-- Drop the underscores from a numeral. Each must stand between two digits; `afterDigit` tells
    whether the character before was one. -/
def dropSeparators : Bool → List Char → Option (List Char)
  | _, [] => some []
  | afterDigit, '_' :: d :: rest =>
    if afterDigit && d.isDigit then (dropSeparators true rest).map (d :: ·) else none
  | _, c :: rest => if c = '_' then none else (dropSeparators c.isDigit rest).map (c :: ·)

/-- A numeral without the white space around it, in plain digits and without underscores. -/
def plainNumeral (s : String) : Option (List Char) :=
  dropSeparators false ((trim isWhite s.toList).map plainDigit)

/-- The sign that opens a numeral (`true` for a minus) and what follows it. -/
def takeSign : List Char → Bool × List Char
  | '-' :: rest => (true, rest)
  | '+' :: rest => (false, rest)
  | cs => (false, cs)

/-- The number that a list of plain digits writes. -/
def ofDigits (ds : List Char) : Nat := ds.foldl (fun n d => 10 * n + (d.toNat - '0'.toNat)) 0

/-- A natural number with a sign. -/
def signed (negative : Bool) (n : Nat) : Int := if negative then -(n : Int) else n

/-- Read an integer. -/
def readInt (s : String) : Option Int := do
  let (negative, ds) := takeSign (← plainNumeral s)
  if !ds.isEmpty && ds.all Char.isDigit && decide (ds.length ≤ maxDigits) then
    some (signed negative (ofDigits ds))
  else none

/-- A decimal numeral: `digits * 10 ^ exponent`. -/
structure Decimal where
  negative : Bool
  digits : Nat
  exponent : Int
deriving DecidableEq

/-- Read the part of a decimal numeral from its exponent mark on: nothing, or `e` with an
    integer. -/
def readExponent : List Char → Option Int
  | [] => some 0
  | c :: rest =>
    let (negative, ds) := takeSign rest
    if (c = 'e' || c = 'E') && !ds.isEmpty && ds.all Char.isDigit then
      some (signed negative (ofDigits ds))
    else none

/-- Read the digits, the point and the exponent of a decimal numeral. At least one digit stands
    before the exponent. -/
def readUnsigned (negative : Bool) (cs : List Char) : Option Decimal := do
  let whole := cs.takeWhile Char.isDigit
  let rest := cs.dropWhile Char.isDigit
  let (fraction, rest) := match rest with
    | '.' :: r => (r.takeWhile Char.isDigit, r.dropWhile Char.isDigit)
    | r => ([], r)
  if whole.isEmpty && fraction.isEmpty then none
  else
    let e ← readExponent rest
    some ⟨negative, ofDigits (whole ++ fraction), e - fraction.length⟩

/-- The double nearest to a decimal numeral. Beyond `10 ^ 400` every numeral is infinite and below
    `10 ^ -400` every numeral is zero, so no larger power of ten is ever computed. -/
def Decimal.toBinary64 (d : Decimal) : Binary64 :=
  let top : Int := (Nat.toDigits 10 d.digits).length + d.exponent
  if d.digits = 0 ∨ top < -400 then .finite d.negative 0
  else if 400 < top then .infinite d.negative
  else .round d.negative ((d.digits : Rat) * (10 : Rat) ^ d.exponent)

/-- Read a decimal number or the name of a special value, in any case. -/
def readDecimal (s : String) : Option Binary64 := do
  let (negative, cs) := takeSign (← plainNumeral s)
  let name := String.ofList (cs.map Char.toLower)
  if name = "inf" ∨ name = "infinity" then some (.infinite negative)
  else if name = "nan" then some (.nan negative)
  else (← readUnsigned negative cs).toBinary64

end Rapport.Numeral
