import Rapport.Numeral.Binary64
import Rapport.Numeral.Word64

set_option autoImplicit false

/-! # Amounts in a database

The weights that a database accumulates. Integers have 64 bits. A sum that does not fit is not an
integer any more: both terms are taken as doubles, and the double that they add up to is stored. It
becomes an integer again as soon as it is small enough. The doubles that arise this way have no
fraction, so an `Amount` is an integer with a mark that tells how it is stored. -/

namespace Rapport.Sql

open Rapport.Numeral

/-- A stored number without fraction. -/
inductive Amount
  /-- An integer of 64 bits. -/
  | whole (n : Int)
  /-- A double. -/
  | real (n : Int)
deriving DecidableEq, Repr

namespace Amount

/-- The number, however it is stored. -/
def value : Amount → Int
  | whole n | real n => n

/-- The integer that the double nearest to an integer stands for. -/
def toDouble (n : Int) : Int := (nearest n).floor

/-- A double as an integer column keeps it: as an integer, if it lies strictly inside their
    range. -/
def stored (n : Int) : Amount :=
  if Word64.encloses n then .whole n else .real n

/-- A stored number with an integer added to it. -/
def add (a : Amount) (n : Int) : Amount :=
  match a with
  | whole m =>
    if Word64.holds (m + n) then .whole (m + n) else stored (toDouble (toDouble m + toDouble n))
  | real m => stored (toDouble (m + toDouble n))

/-- The sum of stored numbers, none of which is negative. Integers whose sum does not fit have
    none. -/
def sum? (amounts : List Amount) : Option Int :=
  let total := amounts.foldr (fun a total => a.value + total) 0
  let integral := amounts.all fun a => match a with | whole _ => true | real _ => false
  if integral then if Word64.holds total then some total else none
  else some (toDouble total)

end Amount

end Rapport.Sql
