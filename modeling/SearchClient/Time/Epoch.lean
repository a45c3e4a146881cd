import SearchClient.Time.DateTime

/-!
# Milliseconds since 1970

The date-time of a count of milliseconds since 1970-01-01T00:00:00, for the
counts that fall in a year in which dates are kept.

## Main definitions

* `DateTime.ofEpochMillis?` — the date-time of a count.
* `DateTime.epochMillis` — the count of a date-time, less what is below a
  millisecond.
-/

namespace SearchClient

/-- The milliseconds of a day. -/
def millisPerDay : Int := 86400000

/-- The first millisecond of the first year in which dates are kept. -/
def minEpochMillis : Int := -8334601228800000

/-- The last millisecond of the last year in which dates are kept. -/
def maxEpochMillis : Int := 8210266876799999

namespace DateTime

/-- The date-time of a count of milliseconds, whatever its year. -/
def ofEpochMillis (millis : Int) : DateTime :=
  let ofDay := (millis % millisPerDay).toNat
  { date := Date.ofEpochDay (millis / millisPerDay)
    hour := ofDay / 3600000
    minute := ofDay / 60000 % 60
    second := ofDay / 1000 % 60
    nano := ofDay % 1000 * 1000000 }

/-- The date-time of a count of milliseconds, if dates are kept in its year. -/
def ofEpochMillis? (millis : Int) : Option DateTime :=
  if minEpochMillis ≤ millis ∧ millis ≤ maxEpochMillis then some (ofEpochMillis millis) else none

/-- The milliseconds from 1970-01-01T00:00:00 to a date-time. -/
def epochMillis (t : DateTime) : Int :=
  t.date.epochDay * millisPerDay +
    (t.hour * 3600000 + t.minute * 60000 + t.second * 1000 + t.nano / 1000000 : Nat)

end DateTime

end SearchClient
