import Rapport.Upkeep.Span

set_option autoImplicit false

/-! # Moments

Points in time as people write them, and the times of the epoch that they stand for. A `Moment` is a
date and a time of day, with its `Zone` where that is known. Moments exist from the first day of the
year 1 to the last of the year 9999; a span is taken off the local time, whatever the clocks did in
between, and the limits are those of the local time.

The time in milliseconds goes through doubles on the way: the seconds of the epoch are rounded to a
double, a thousand times that is rounded again, and what is left of a millisecond is dropped. -/

namespace Rapport.Upkeep

open Rapport.Numeral

/-- The days from the first of January 1970 to a date of the Gregorian calendar. Years are counted
    from March on, so that a leap day is the last of its year. -/
def epochDay (year month day : Int) : Int :=
  let y := if month ≤ 2 then year - 1 else year
  let m := if month ≤ 2 then month + 9 else month - 3
  y * 365 + y.fdiv 4 - y.fdiv 100 + y.fdiv 400 + (m * 153 + 2).fdiv 5 + day - 719469

/-- How far a local time is ahead of universal time, in microseconds: always less than a day either
    way. Where the clocks are changed it depends on the local time. -/
structure Zone where
  ahead : Int → Int
  ahead_lt (time : Int) : (ahead time).natAbs < dayLength

/-- A date and a time of day. -/
structure Moment where
  /-- Microseconds of local time since the first of January 1970. -/
  local_ : Int
  /-- Where that is the local time, if it is known. -/
  zone : Option Zone := none

/-- The days of a month. -/
def monthLength (year month : Int) : Int :=
  let next := if month = 12 then epochDay (year + 1) 1 1 else epochDay year (month + 1) 1
  next - epochDay year month 1

/-- Refuse a part of a date or a time of day that is not in its bounds. -/
def within (part : DatePart) (least greatest n : Int) : Except Failure Unit :=
  if least ≤ n ∧ n ≤ greatest then .ok () else .error (.datePartOutOfRange part)

/-- The zone that is always the same number of minutes ahead, if that is less than a day. -/
def Zone.fixed (minutes : Int) : Except Failure Zone := do
  let distance ← Span.ofParts { minutes := .whole minutes }
  let days := distance.microseconds.fdiv dayLength
  if h : distance.microseconds.natAbs < dayLength then
    return ⟨fun _ => distance.microseconds, fun _ => h⟩
  else throw (.offsetTooLarge days ((distance.microseconds - days * dayLength) / secondLength))

/-- The moment of a date and a time of day. -/
def Moment.ofDate (year month day hour minute second microsecond : Int) (offset : Option Int) :
    Except Failure Moment := do
  let zone ← offset.mapM Zone.fixed
  unless 1 ≤ year ∧ year ≤ 9999 do throw (.yearOutOfRange year)
  within .month 1 12 month
  within .day 1 (monthLength year month) day
  within .hour 0 23 hour
  within .minute 0 59 minute
  within .second 0 59 second
  within .microsecond 0 999999 microsecond
  return ⟨epochDay year month day * dayLength
      + ((hour * 60 + minute) * 60 + second) * secondLength + microsecond, zone⟩

/-- The first microsecond that there is, and the first that there is no more. -/
def firstMoment : Int := epochDay 1 1 1 * dayLength

def lastMoment : Int := epochDay 10000 1 1 * dayLength

/-- The moment a span earlier. -/
def Moment.minus (m : Moment) (s : Span) : Except Failure Moment :=
  let earlier := m.local_ - s.microseconds
  if firstMoment ≤ earlier ∧ earlier < lastMoment then .ok { m with local_ := earlier }
  else .error .dateOutOfRange

/-- The seconds of the epoch, as a double. With a known zone the exact time is rounded once;
    without one, local time is taken for universal time, and the whole seconds and the fraction
    are rounded before they are added. -/
def Moment.seconds (m : Moment) : Except Failure Rat :=
  match m.zone with
  | some zone => .ok (nearest ((m.local_ - zone.ahead m.local_ : Int) / secondLength))
  | none =>
    if m.local_ < firstMoment + dayLength then .error (.yearOutOfRange 0)
    else
      let whole := m.local_.fdiv secondLength
      let fraction := m.local_ - whole * secondLength
      .ok (nearest (whole + nearest (fraction / secondLength)))

/-- The milliseconds of the epoch. -/
def Moment.milliseconds (m : Moment) : Except Failure Int := do
  return truncate (nearest ((← m.seconds) * 1000))

end Rapport.Upkeep
