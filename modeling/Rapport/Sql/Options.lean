import Rapport.Failure
import Rapport.Sql.Address
import Rapport.Text.Lower

set_option autoImplicit false

/-! # Options of addresses

Drivers take some options for numbers or truth values. A text that is none makes the engine
unavailable. An option that is given more than once is no text any more: it counts as a truth value
of its own, and is refused where a number is wanted. -/

namespace Rapport.Sql.Options

open Rapport.Text

/-- The words for true. -/
def trueWords : List String := ["true", "yes", "on", "y", "t", "1"]

/-- The words for false. -/
def falseWords : List String := ["false", "no", "off", "n", "f", "0"]

/-- Read an option that `read` makes something of. -/
def parse? {α : Type} (options : Options) (name : String) (read : String → Option α)
    (repeated : Except Failure α) : Except Failure (Option α) :=
  match options.find? name with
  | none | some [] => .ok none
  | some [text] =>
    match read text with
    | some a => .ok (some a)
    | none => .error .engineUnavailable
  | some _ => some <$> repeated

/-- An option that is a whole number. -/
def whole? (options : Options) (name : String) : Except Failure (Option Int) :=
  options.parse? name Numeral.readInt (.error (.optionRepeated .whole))

/-- An option that is a number. -/
def real? (options : Options) (name : String) : Except Failure (Option Numeral.Binary64) :=
  options.parse? name Numeral.readDecimal (.error (.optionRepeated .real))

/-- Read a truth value. -/
def readTruth (text : String) : Option Bool :=
  let word := lower (strip text)
  if trueWords.contains word then some true
  else if falseWords.contains word then some false
  else none

/-- An option that is a truth value. -/
def truth? (options : Options) (name : String) : Except Failure (Option Bool) :=
  options.parse? name readTruth (.ok true)

end Rapport.Sql.Options
