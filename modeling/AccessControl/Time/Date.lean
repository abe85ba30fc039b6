/-!
# Calendar dates

Dates of the Gregorian calendar, extended to all years, and their numbers counted from 1970-01-01.
Both conversions work on years that begin in March, so that a leap day is the last of its year, and
on cycles of 400 years, which all have 146097 days.
-/

namespace AccessControl

/-- A year, a month from 1 to 12 and a day of the month from 1. -/
structure Date where
  year : Int
  month : Nat
  day : Nat
  deriving DecidableEq, Repr

namespace Date

/-- Whether a year has 366 days. -/
def isLeap (year : Int) : Bool :=
  year % 4 = 0 && (year % 100 ≠ 0 || year % 400 = 0)

/-- The number of days in a month. -/
def daysInMonth (year : Int) (month : Nat) : Nat :=
  if month = 2 then (if isLeap year then 29 else 28)
  else if month = 4 ∨ month = 6 ∨ month = 9 ∨ month = 11 then 30
  else 31

/-- The first year of the calendar. -/
def minYear : Int := -262143

/-- The last year of the calendar. -/
def maxYear : Int := 262142

/-- Whether month and day exist and the year belongs to the calendar. -/
def isValid (date : Date) : Bool :=
  minYear ≤ date.year && date.year ≤ maxYear &&
    1 ≤ date.month && date.month ≤ 12 &&
    1 ≤ date.day && date.day ≤ daysInMonth date.year date.month

/-- The days from 1970-01-01 to a date. -/
def toDays (date : Date) : Int :=
  -- January and February belong to the year that began in the March before.
  let year := if date.month ≤ 2 then date.year - 1 else date.year
  let cycle := year / 400
  let yearOfCycle := year % 400
  let month : Int := (date.month + 9) % 12
  -- From March on, five months in a row have 153 days.
  let dayOfYear := (153 * month + 2) / 5 + date.day - 1
  let dayOfCycle := yearOfCycle * 365 + yearOfCycle / 4 - yearOfCycle / 100 + dayOfYear
  cycle * 146097 + dayOfCycle - 719468

/-- The date that lies `days` after 1970-01-01. -/
def ofDays (days : Int) : Date :=
  let days := days + 719468
  let cycle := days / 146097
  let dayOfCycle := days % 146097
  let yearOfCycle :=
    (dayOfCycle - dayOfCycle / 1460 + dayOfCycle / 36524 - dayOfCycle / 146096) / 365
  let dayOfYear := dayOfCycle - (365 * yearOfCycle + yearOfCycle / 4 - yearOfCycle / 100)
  let month := (5 * dayOfYear + 2) / 153
  let day := dayOfYear - (153 * month + 2) / 5 + 1
  let calendarMonth := if month < 10 then month + 3 else month - 9
  let year := yearOfCycle + cycle * 400
  ⟨if calendarMonth ≤ 2 then year + 1 else year, calendarMonth.toNat, day.toNat⟩

example : toDays ⟨1970, 1, 1⟩ = 0 := by decide
example : ofDays (-1) = ⟨1969, 12, 31⟩ := by decide
example : ofDays (toDays ⟨2000, 2, 29⟩) = ⟨2000, 2, 29⟩ := by decide

end Date

end AccessControl
