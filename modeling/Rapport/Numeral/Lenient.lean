import Rapport.Numeral.Reading

set_option autoImplicit false

/-! # Integer numerals with trimmings

A lenient reading of integers. White space may stand around the numeral, a sign before it, zeros in
front of its digits and behind a point after them, and single underscores between them. The
trimmings are taken off first, and what is left is read strictly: a minus, if there is one, and
digits without needless zeros.

Zeros in front may themselves be parted by any number of underscores, and behind them a minus may
stand as well as a digit. The limit on the number of digits is for those that are left. -/

namespace Rapport.Numeral

/-- Why a numeral is not read. -/
inductive Fault
  | malformed
  /-- It has more digits than are read. -/
  | tooLong
deriving DecidableEq, Repr

/-- A character that the rest of a numeral can begin with once its zeros are gone. -/
def opensNumeral (c : Char) : Bool := ('1' ≤ c && c ≤ '9') || c == '-'

/-- What follows the zeros and underscores that continue a numeral after `last`. In front of a point
    and at the end the last of them stays. -/
def afterZeros (last : Char) : List Char → Option (List Char)
  | [] => some [last]
  | c :: rest =>
    if c = '0' ∨ c = '_' then afterZeros c rest
    else if c = '.' then some (last :: c :: rest)
    else if opensNumeral c then some (c :: rest)
    else none

/-- A numeral without the zeros in front of it. -/
def dropZeros : List Char → Option (List Char)
  | [] => none
  | c :: rest =>
    if c = '0' then afterZeros c rest else if opensNumeral c then some (c :: rest) else none

/-- A fraction of nothing but zeros, behind its point. -/
def isEmptyFraction (cs : List Char) : Bool := !cs.isEmpty && cs.all (· == '0')

/-- A numeral without its fraction, if that is empty. -/
def dropFraction (cs : List Char) : List Char :=
  match cs.dropWhile (· ≠ '.') with
  | _ :: fraction => if isEmptyFraction fraction then cs.takeWhile (· ≠ '.') else cs
  | [] => cs

/-- Whether every underscore of a numeral is a single one between two other characters. -/
def partsWell (cs : List Char) : Bool :=
  cs.head? != some '_' && cs.getLast? != some '_'
    && (cs.zip cs.tail).all fun (c, d) => !(c == '_' && d == '_')

/-- A numeral without its underscores, if they are where they may be. -/
def joinParts (cs : List Char) : List Char := if partsWell cs then cs.filter (· ≠ '_') else cs

/-- A numeral without its trimmings. -/
def bare (s : String) : Option (List Char) :=
  let trimmed (cs : List Char) : Option (List Char) :=
    (dropZeros cs).map fun cs => joinParts (dropFraction cs)
  match Text.trim Text.isWhite s.toList with
  | '+' :: '-' :: _ => none
  | '+' :: rest => trimmed rest
  | '-' :: rest => (trimmed rest).map ('-' :: ·)
  | cs => trimmed cs

/-- Read a numeral that has no trimmings. -/
def readBare (cs : List Char) : Except Fault Int :=
  let (negative, cs) := match cs with
    | '-' :: rest => (true, rest)
    | _ => (false, cs)
  let digits := cs.takeWhile Char.isDigit
  if digits.isEmpty || (digits.head? == some '0' && decide (1 < digits.length)) then
    .error .malformed
  else if maxDigits < digits.length then .error .tooLong
  else if digits.length < cs.length then .error .malformed
  else .ok (signed negative (ofDigits digits))

/-- Read an integer numeral with its trimmings. -/
def readLenient (s : String) : Except Fault Int :=
  match bare s with
  | none => .error .malformed
  | some cs => readBare cs

end Rapport.Numeral
