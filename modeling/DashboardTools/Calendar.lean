import DashboardTools.Decimal.Layout

/-!
# Calendar dates

A moment is a number of milliseconds since the first of January 1970, on days of 86400 seconds.
It is shown on the calendar in use today, extended in both directions, for the years from -262143
to 262142.
-/

namespace DashboardTools.Calendar

open DashboardTools.Decimal

/-- A day of the calendar in which the Gregorian rule holds for all years, before its introduction
as well. Year zero and negative years are days like others. -/
structure Date where
  year : Int
  month : Nat
  day : Nat
  deriving DecidableEq

/-- The days of a cycle of 400 years. After a whole cycle the leap years fall as they did before. -/
def daysOfCycle : Int := 146097

/-- The date that lies this many days after the first of January 1970. The year is taken to begin
in March, so that a leap day is its last day. -/
def Date.ofDays (days : Int) : Date :=
  let shifted := days + 719468
  let cycle := shifted / daysOfCycle
  let dayOfCycle := (shifted % daysOfCycle).toNat
  let yearOfCycle :=
    (dayOfCycle - dayOfCycle / 1460 + dayOfCycle / 36524 - dayOfCycle / 146096) / 365
  let dayOfYear := dayOfCycle - (365 * yearOfCycle + yearOfCycle / 4 - yearOfCycle / 100)
  let monthFromMarch := (5 * dayOfYear + 2) / 153
  let month := if monthFromMarch < 10 then monthFromMarch + 3 else monthFromMarch - 9
  { year := yearOfCycle + cycle * 400 + if month ≤ 2 then 1 else 0
    month := month
    day := dayOfYear - (153 * monthFromMarch + 2) / 5 + 1 }

/-- A day and a time of that day, in universal time and without leap seconds. -/
structure Moment where
  date : Date
  hour : Nat
  minute : Nat
  second : Nat
  millisecond : Nat
  deriving DecidableEq

/-- The moment that lies this many milliseconds after the start of 1970, for a year that the
calendar shows. -/
def Moment.ofMillis? (millis : Int) : Option Moment :=
  let date := Date.ofDays (millis / 86400000)
  let within := (millis % 86400000).toNat
  if date.year < -262143 ∨ 262142 < date.year then none
  else some {
    date := date
    hour := within / 3600000
    minute := within / 60000 % 60
    second := within / 1000 % 60
    millisecond := within % 1000 }

/-- A number with zeros before it up to a width. -/
def padded (width n : Nat) : List Char :=
  let digits := natText n
  List.replicate (width - digits.length) '0' ++ digits

/-- A year with at least four digits; one of more than four digits has a sign. -/
def yearText (year : Int) : List Char :=
  if year < 0 then '-' :: padded 4 year.natAbs
  else if 9999 < year then '+' :: natText year.natAbs
  else padded 4 year.natAbs

/-- The date as year, month and day with hyphens between them, the month and the day in two
digits. -/
def Date.text (date : Date) : List Char :=
  yearText date.year ++ '-' :: padded 2 date.month ++ '-' :: padded 2 date.day

/-- The date with hour and minute, which is as much as a user is shown of a time. -/
def Moment.minuteText (moment : Moment) : List Char :=
  moment.date.text ++ ' ' :: padded 2 moment.hour ++ ':' :: padded 2 moment.minute

/-- The date with the time down to the millisecond, which is all that is kept of a moment. -/
def Moment.text (moment : Moment) : List Char :=
  moment.minuteText ++ ':' :: padded 2 moment.second ++ '.' :: padded 3 moment.millisecond

end DashboardTools.Calendar
