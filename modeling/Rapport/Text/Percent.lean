import Rapport.Text.Utf8

set_option autoImplicit false

/-! # Percent escapes

Addresses write a byte as a percent sign and two digits to base sixteen. `Percent.decode` puts the
bytes in the place of the escapes and reads the whole as UTF-8. A percent sign that begins no escape
stands for itself. -/

namespace Rapport.Text

/-- The value of a digit to base sixteen, in either case. -/
def hexValue? (c : Char) : Option Nat :=
  if '0' ≤ c ∧ c ≤ '9' then some (c.toNat - '0'.toNat)
  else if 'a' ≤ c ∧ c ≤ 'f' then some (c.toNat - 'a'.toNat + 10)
  else if 'A' ≤ c ∧ c ≤ 'F' then some (c.toNat - 'A'.toNat + 10)
  else none

/-- The byte that an escape stands for. -/
def escapedByte? (c d : Char) : Option UInt8 := do
  return UInt8.ofNat (16 * (← hexValue? c) + (← hexValue? d))

namespace Percent

/-- The bytes of a text with escapes. -/
def bytes : List Char → List UInt8
  | '%' :: c :: d :: rest =>
    match escapedByte? c d with
    | some b => b :: bytes rest
    | none => String.utf8EncodeChar '%' ++ bytes (c :: d :: rest)
  | c :: rest => String.utf8EncodeChar c ++ bytes rest
  | [] => []

/-- A text with its escapes replaced. -/
def decode (cs : List Char) : List Char := Utf8.read (bytes cs)

/-- A part of a query, in which a plus sign stands for a space. -/
def decodeQuery (cs : List Char) : List Char := decode (cs.map fun c => if c = '+' then ' ' else c)

end Percent

end Rapport.Text
