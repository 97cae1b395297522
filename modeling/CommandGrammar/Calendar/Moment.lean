/-
# Moments of the calendar

A date of the proleptic Gregorian calendar with a time of day, and the time zone if it has one.  The
clock of the place shows universal time.

| year | leap |
| --- | --- |
| divisible by 400 | yes |
| divisible by 100, not by 400 | no |
| divisible by 4, not by 100 | yes |
| other | no |
-/

import CommandGrammar.Text.Quoted

namespace CommandGrammar

/-- A time zone. -/
inductive Zone
  /-- The one of the clock of the place. -/
  | clock
  | universal
  /-- One with an offset from universal time in seconds, and a name if it is given one. -/
  | shifted (name : Option String) (seconds : Int)
  deriving DecidableEq, Repr

/-- The offset of a zone from universal time in seconds. -/
def Zone.offset : Zone → Int
  | clock | universal => 0
  | shifted _ seconds => seconds

/-- A zone with its parts listed. -/
def Zone.describe : Zone → String
  | clock => "tzlocal()"
  | universal => "tzutc()"
  | shifted name seconds =>
    let name := (name.map Text.quoted).getD "None"
    s!"tzoffset({name}, {seconds})"

/-- A date with a time of day. -/
structure Moment where
  year : Nat
  month : Nat
  day : Nat
  hour : Nat
  minute : Nat
  second : Nat
  microsecond : Nat
  zone : Option Zone
  deriving DecidableEq, Repr

namespace Moment

/-- Whether a year has 366 days. -/
def isLeap (year : Nat) : Bool := year % 4 == 0 && (year % 100 != 0 || year % 400 == 0)

/-- The number of days of a month. -/
def monthLength (year month : Nat) : Nat :=
  if month = 2 then (if isLeap year then 29 else 28)
  else if month = 4 ∨ month = 6 ∨ month = 9 ∨ month = 11 then 30 else 31

/-- **A month has 28 to 31 days.** -/
theorem monthLength_bounds (year month : Nat) :
    28 ≤ monthLength year month ∧ monthLength year month ≤ 31 := by
  unfold monthLength
  split
  · split <;> omega
  · split <;> omega

/-- The days before a year, counted from year 1. -/
def daysBeforeYear (year : Nat) : Nat :=
  let y := year - 1
  y * 365 + y / 4 - y / 100 + y / 400

/-- The days before a month in its year. -/
def daysBeforeMonth (year month : Nat) : Nat :=
  ((List.range (month - 1)).map fun m => monthLength year (m + 1)).foldr (· + ·) 0

/-- The day number of a date; 1 January of year 1 is day 1. -/
def ordinal (year month day : Nat) : Nat :=
  daysBeforeYear year + daysBeforeMonth year month + day

/-- The day of the week of a date; Monday is 0. -/
def weekday (year month day : Nat) : Nat := (ordinal year month day + 6) % 7

/-- A number with at least `width` digits. -/
def padded (width n : Nat) : String :=
  let ds := (toString n).toList
  String.ofList (List.replicate (width - ds.length) '0' ++ ds)

/-- An offset from universal time. -/
def offsetText (seconds : Int) : String :=
  let n := seconds.natAbs
  let clock := padded 2 (n / 3600) ++ ":" ++ padded 2 (n / 60 % 60)
  (if seconds < 0 then "-" else "+") ++ clock ++
    (if n % 60 = 0 then "" else ":" ++ padded 2 (n % 60))

/-- The date and time of day of a moment, `join` between the two; microseconds only when not zero,
the offset only when there is a zone. -/
def textWith (join : String) (m : Moment) : String :=
  padded 4 m.year ++ "-" ++ padded 2 m.month ++ "-" ++ padded 2 m.day ++ join ++
    padded 2 m.hour ++ ":" ++ padded 2 m.minute ++ ":" ++ padded 2 m.second ++
    (if m.microsecond = 0 then "" else "." ++ padded 6 m.microsecond) ++
    (match m.zone with
      | some z => offsetText z.offset
      | none => "")

/-- A moment in the form `2024-05-31T12:34:56`. -/
def text (m : Moment) : String := m.textWith "T"

end Moment
end CommandGrammar
