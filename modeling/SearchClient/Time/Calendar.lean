/-!
# The Gregorian calendar

Calendar dates in the proleptic Gregorian calendar, with a year zero and years
before it, and their count in days from 1970-01-01.

The calendar repeats after an era of 400 years, which has 146097 days.  Years
are counted from March here, so that a leap day is the last day of its year.

## Main definitions

* `Date`, `Date.Valid` — calendar dates.
* `Date.ofEpochDay`, `Date.epochDay` — the date of a day, the day of a date.
-/

namespace SearchClient

/-- A calendar date. -/
structure Date where
  /-- The year; year 0 comes before year 1. -/
  year : Int
  /-- The month, from 1 to 12. -/
  month : Nat
  /-- The day of the month, from 1. -/
  day : Nat
  deriving DecidableEq, Repr, Inhabited

/-- Every fourth year is a leap year, except for the centuries that 400 does not
divide. -/
def isLeapYear (year : Int) : Bool :=
  year % 4 == 0 && (year % 100 != 0 || year % 400 == 0)

/-- The number of days of a month. -/
def daysInMonth (year : Int) (month : Nat) : Nat :=
  if month = 2 then if isLeapYear year then 29 else 28
  else if month = 4 ∨ month = 6 ∨ month = 9 ∨ month = 11 then 30
  else 31

namespace Date

/-- The first year in which dates are kept. -/
def minYear : Int := -262143

/-- The last year in which dates are kept. -/
def maxYear : Int := 262142

/-- A date that the calendar has. -/
def Valid (d : Date) : Prop :=
  minYear ≤ d.year ∧ d.year ≤ maxYear ∧ 1 ≤ d.month ∧ d.month ≤ 12 ∧
    1 ≤ d.day ∧ d.day ≤ daysInMonth d.year d.month

instance (d : Date) : Decidable d.Valid := by
  unfold Valid
  infer_instance

/-- The days from 1 March of year 0 to 1970-01-01. -/
def epochOffset : Int := 719468

/-- The days of 400 years. -/
def daysPerEra : Int := 146097

/-- The date of the day with the given count from 1970-01-01. -/
def ofEpochDay (n : Int) : Date :=
  let days := n + epochOffset
  let era := days / daysPerEra
  let dayOfEra := (days % daysPerEra).toNat
  let yearOfEra :=
    (dayOfEra - dayOfEra / 1460 + dayOfEra / 36524 - dayOfEra / 146096) / 365
  let dayOfYear := dayOfEra - (365 * yearOfEra + yearOfEra / 4 - yearOfEra / 100)
  let fromMarch := (5 * dayOfYear + 2) / 153
  let month := if fromMarch < 10 then fromMarch + 3 else fromMarch - 9
  { year := era * 400 + yearOfEra + if month ≤ 2 then 1 else 0
    month := month
    day := dayOfYear - (153 * fromMarch + 2) / 5 + 1 }

/-- The count of a date's day from 1970-01-01. -/
def epochDay (d : Date) : Int :=
  let year := if d.month ≤ 2 then d.year - 1 else d.year
  let yearOfEra := year % 400
  let fromMarch : Int := if d.month ≤ 2 then d.month + 9 else d.month - 3
  let dayOfYear := (153 * fromMarch + 2) / 5 + d.day - 1
  let dayOfEra := 365 * yearOfEra + yearOfEra / 4 - yearOfEra / 100 + dayOfYear
  year / 400 * daysPerEra + dayOfEra - epochOffset

end Date

end SearchClient
