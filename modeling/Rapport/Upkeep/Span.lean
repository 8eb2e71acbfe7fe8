import Rapport.Failure
import Rapport.Numeral.Binary64

set_option autoImplicit false

/-! # Spans

A `Span` is a time in microseconds. It is put together from quantities of weeks, days and so on down
to microseconds, each a whole number or a double. What is whole in a quantity counts exactly. Its
fraction is turned into microseconds in doubles, and what is whole in these counts exactly again;
the fractions of a microsecond that are left of all quantities are added up in doubles and rounded
at the end. -/

namespace Rapport.Upkeep

open Rapport.Numeral

/-- Microseconds of a second, and of a day. -/
def secondLength : Int := 1000000

def dayLength : Int := 86400 * secondLength

/-- A length of time, in microseconds. -/
structure Span where
  microseconds : Int
deriving DecidableEq, Repr

/-- How many units of time. -/
inductive Quantity
  | whole (n : Int)
  | real (d : Binary64)
deriving DecidableEq

/-- The quantities that a span is made of. -/
structure Parts where
  microseconds : Quantity := .whole 0
  milliseconds : Quantity := .whole 0
  seconds : Quantity := .whole 0
  minutes : Quantity := .whole 0
  hours : Quantity := .whole 0
  days : Quantity := .whole 0
  weeks : Quantity := .whole 0
deriving DecidableEq

namespace Parts

/-- The quantities, each with the microseconds of its unit, from the smallest unit on. -/
def quantities (p : Parts) : List (Quantity × Int) :=
  [(p.microseconds, 1), (p.milliseconds, 1000), (p.seconds, secondLength),
    (p.minutes, 60 * secondLength), (p.hours, 3600 * secondLength), (p.days, dayLength),
    (p.weeks, 7 * dayLength)]

end Parts

/-- Microseconds, and what is left over of one. -/
structure Tally where
  microseconds : Int := 0
  left : Rat := 0
deriving DecidableEq

namespace Tally

/-- Add a quantity of units of the given length. -/
def add (t : Tally) (q : Quantity) (unit : Int) : Except Failure Tally :=
  match q with
  | .whole n => .ok { t with microseconds := t.microseconds + n * unit }
  | .real (.nan _) => .error .spanUndefined
  | .real (.infinite _) => .error .spanInfinite
  | .real (.finite negative size) =>
    let x := if negative then -size else size
    let whole := truncate x
    let rest := nearest (unit * (x - whole))
    .ok ⟨t.microseconds + whole * unit + truncate rest, nearest (t.left + (rest - truncate rest))⟩

/-- The integer nearest to `x`; of two equally near the one farther from zero. -/
def roundAway (x : Rat) : Int := if x < 0 then -(-x + 1 / 2).floor else (x + 1 / 2).floor

/-- The microseconds with what is left over rounded. Half a microsecond goes where the microseconds
    become even. -/
def rounded (t : Tally) : Int :=
  let near := roundAway t.left
  if near - t.left = 1 / 2 ∨ t.left - near = 1 / 2 then
    let odd := t.microseconds % 2
    t.microseconds + (2 * roundAway ((t.left + odd) / 2) - odd)
  else t.microseconds + near

end Tally

/-- The span of the given parts. It has less than a billion days in either direction. -/
def Span.ofParts (p : Parts) : Except Failure Span := do
  let tally ← p.quantities.foldlM (fun (t : Tally) (q, unit) => t.add q unit) {}
  let total := tally.rounded
  let days := total.fdiv dayLength
  if -999999999 ≤ days ∧ days ≤ 999999999 then return ⟨total⟩ else throw (.spanOutOfRange days)

end Rapport.Upkeep
