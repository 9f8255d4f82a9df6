/-
MetricAudit.Data.Moment — dates, times of day, and both together.

A date with a time of day may carry its offset from universal time in
minutes. `Moment.shown` is the form in which messages show one: seconds
and microseconds are left out from the right where they are zero, and a
negative offset is shown as a day back and the seconds forward.
-/
import MetricAudit.Text.Basic

namespace MetricAudit

/-- A day of the calendar. -/
structure Date where
  year : Nat
  month : Nat
  day : Nat
  deriving DecidableEq, Repr

/-- A time of day. -/
structure Clock where
  hour : Nat
  minute : Nat
  second : Nat
  microsecond : Nat
  deriving DecidableEq, Repr

/-- A point in time, as far as it is given. -/
inductive Moment where
  | date (date : Date)
  | time (clock : Clock)
  | dateTime (date : Date) (clock : Clock) (offsetMinutes : Option Int)
  deriving DecidableEq, Repr

/-- The days of a month; February has 29 days in every fourth year but
in a hundredth only if it is a four hundredth. -/
def Date.daysIn (year month : Nat) : Nat :=
  if month = 2 then
    if year % 4 = 0 ∧ (year % 100 ≠ 0 ∨ year % 400 = 0) then 29 else 28
  else if month = 4 ∨ month = 6 ∨ month = 9 ∨ month = 11 then 30
  else 31

/-- A day that the calendar has, from year 1 on. -/
def Date.isOnCalendar (d : Date) : Bool :=
  1 ≤ d.year && 1 ≤ d.month && d.month ≤ 12 && 1 ≤ d.day
    && d.day ≤ Date.daysIn d.year d.month

namespace Moment

/-- The parts of a date to show. -/
def dateParts (d : Date) : List Text :=
  [d.year, d.month, d.day].map Text.ofNat

/-- The parts of a time of day to show. -/
def clockParts (c : Clock) : List Text :=
  let parts :=
    if c.microsecond ≠ 0 then [c.hour, c.minute, c.second, c.microsecond]
    else if c.second ≠ 0 then [c.hour, c.minute, c.second]
    else [c.hour, c.minute]
  parts.map Text.ofNat

/-- An offset from universal time. -/
def offsetShown (minutes : Int) : Text :=
  let seconds := minutes * 60
  if seconds = 0 then "datetime.timezone.utc"
  else
    let span : Text :=
      if seconds < 0 then "days=-1, seconds=" ++ Text.ofInt (seconds + 86400)
      else "seconds=" ++ Text.ofInt seconds
    "datetime.timezone(datetime.timedelta(" ++ span ++ "))"

/-- A moment as messages show it. -/
def shown : Moment → Text
  | .date d => "datetime.date(" ++ Text.join ", " (dateParts d) ++ ")"
  | .time c => "datetime.time(" ++ Text.join ", " (clockParts c) ++ ")"
  | .dateTime d c offset =>
    let zone := offset.map fun o => "tzinfo=" ++ offsetShown o
    "datetime.datetime("
      ++ Text.join ", " (dateParts d ++ clockParts c ++ zone.toList) ++ ")"

end Moment
end MetricAudit
