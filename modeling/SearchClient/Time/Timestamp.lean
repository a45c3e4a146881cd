import SearchClient.Decimal.Numeral
import SearchClient.Time.DateTime

/-!
# The text of dates and date-times

Years from 0 to 9999 have four digits; the others have a sign and at least four
digits.  A timestamp ends in a fraction of three digits, which is cut and never
rounded.  The plain text of a date-time shows as many groups of three decimals
as it needs, and none for a whole second.

## Main definitions

* `Date.render` — `2024-02-29`.
* `DateTime.timestamp` — `2024-02-29T22:05:01.007Z`.
* `DateTime.render` — `2024-02-29 22:05:01.007`.
-/

namespace SearchClient

open Decimal (padded)

/-- The text of a year. -/
def renderYear (year : Int) : List Char :=
  if 0 ≤ year ∧ year ≤ 9999 then padded 4 year.toNat
  else (if year < 0 then '-' else '+') :: padded 4 year.natAbs

/-- The text of a date: year, month and day. -/
def Date.render (d : Date) : List Char :=
  renderYear d.year ++ '-' :: padded 2 d.month ++ '-' :: padded 2 d.day

namespace DateTime

/-- Hours, minutes and seconds on the clock. -/
def renderClock (t : DateTime) : List Char :=
  padded 2 t.hour ++ ':' :: padded 2 t.minute ++ ':' :: padded 2 t.clockSecond

/-- The text of an instant in UTC, cut to milliseconds. -/
def timestamp (t : DateTime) : List Char :=
  t.date.render ++ 'T' :: t.renderClock ++ '.' :: padded 3 (t.fraction / 1000000) ++ ['Z']

/-- The decimals of a fraction of a second: three, six or nine of them, the
fewest that are exact, or none at all. -/
def renderFraction (nano : Nat) : List Char :=
  if nano = 0 then []
  else if nano % 1000000 = 0 then '.' :: padded 3 (nano / 1000000)
  else if nano % 1000 = 0 then '.' :: padded 6 (nano / 1000)
  else '.' :: padded 9 nano

/-- The plain text of a date-time. -/
def render (t : DateTime) : List Char :=
  t.date.render ++ ' ' :: t.renderClock ++ renderFraction t.fraction

end DateTime

end SearchClient
