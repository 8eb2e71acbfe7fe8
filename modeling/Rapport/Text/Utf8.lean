set_option autoImplicit false

/-! # Reading UTF-8

Bytes are read as UTF-8, one at a time, with the character that is not complete yet kept pending.
Bytes that are no UTF-8 are replaced: each stretch that begins like a character and breaks off, and
each byte that begins none, by one replacement character. -/

namespace Rapport.Text.Utf8

/-- What stands in the place of bytes that cannot be read. -/
def replacement : Char := '\uFFFD'

/-- A character of which some bytes have been read. -/
structure Pending where
  /-- The bits read so far. -/
  value : Nat
  /-- How many bytes are to come. -/
  missing : Nat
  /-- The least and the greatest byte that may come next. -/
  low : Nat := 0x80
  high : Nat := 0xBF
deriving DecidableEq, Repr

/-- What the first byte of a character leads to: characters that are complete, and one that is
    not. -/
def begun (n : Nat) : List Char × Option Pending :=
  if n < 0x80 then ([Char.ofNat n], none)
  else if n < 0xC2 then ([replacement], none)
  else if n < 0xE0 then ([], some ⟨n - 0xC0, 1, 0x80, 0xBF⟩)
  else if n = 0xE0 then ([], some ⟨0, 2, 0xA0, 0xBF⟩)
  else if n = 0xED then ([], some ⟨0xD, 2, 0x80, 0x9F⟩)
  else if n < 0xF0 then ([], some ⟨n - 0xE0, 2, 0x80, 0xBF⟩)
  else if n = 0xF0 then ([], some ⟨0, 3, 0x90, 0xBF⟩)
  else if n < 0xF4 then ([], some ⟨n - 0xF0, 3, 0x80, 0xBF⟩)
  else if n = 0xF4 then ([], some ⟨4, 3, 0x80, 0x8F⟩)
  else ([replacement], none)

/-- What the next byte leads to. One that does not go on with the pending character ends it, and
    begins another. -/
def continued (pending : Option Pending) (n : Nat) : List Char × Option Pending :=
  match pending with
  | none => begun n
  | some p =>
    if p.low ≤ n ∧ n ≤ p.high then
      let value := p.value * 64 + (n - 0x80)
      if p.missing ≤ 1 then ([Char.ofNat value], none)
      else ([], some ⟨value, p.missing - 1, 0x80, 0xBF⟩)
    else (replacement :: (begun n).1, (begun n).2)

/-- Read bytes as UTF-8, with a character pending. -/
def readFrom : Option Pending → List UInt8 → List Char
  | none, [] => []
  | some _, [] => [replacement]
  | pending, b :: rest =>
    (continued pending b.toNat).1 ++ readFrom (continued pending b.toNat).2 rest

/-- Read bytes as UTF-8. -/
def read (bytes : List UInt8) : List Char := readFrom none bytes

end Rapport.Text.Utf8
