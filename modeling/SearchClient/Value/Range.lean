import SearchClient.Decimal.Numeral
import SearchClient.Time.Epoch
import SearchClient.Value.Error

/-!
# Ranges

Ranges of numbers and of dates, both ends included.

A bound of a numeric range is *open* when it is -1; an open bound is written as
a wildcard.  A bound of a date range may be a count of milliseconds since 1970
or a date-time.  At day precision a date range reaches from the start of its
first day to the end of its last one; at millisecond precision both bounds are
written as they are, cut to milliseconds.

## Main definitions

* `Range.numeric` — the text of a numeric range.
* `DateBound`, `DateBound.resolve` — bounds of date ranges.
* `Precision`, `Range.dates`, `Range.spanning` — the text of a date range, and of
  the smallest one that holds some dates.
-/

namespace SearchClient

/-- The bound that stands for no bound. -/
def openBound : Int := -1

/-- The text of no bound. -/
def wildcard : String := "*"

/-- A bound of a date range. -/
inductive DateBound
  /-- Milliseconds since 1970-01-01T00:00:00 UTC. -/
  | millis (count : Int)
  /-- A date-time that is taken to be in UTC. -/
  | plain (time : DateTime)
  /-- A date-time in UTC. -/
  | utc (time : DateTime)
  deriving DecidableEq, Repr, Inhabited

/-- The date-time of a count of milliseconds. -/
def dateTimeOfMillis (count : Int) : Except ValueError DateTime :=
  match DateTime.ofEpochMillis? count with
  | some t => .ok t
  | none => .error (.timestampOutOfRange count)

/-- The date-time that a bound stands for. -/
def DateBound.resolve : DateBound → Except ValueError DateTime
  | .millis count => dateTimeOfMillis count
  | .plain t => .ok t
  | .utc t => .ok t

/-- How far a date range reaches. -/
inductive Precision
  /-- Over the whole days of its bounds. -/
  | day
  /-- From one bound to the other. -/
  | millisecond
  deriving DecidableEq, Repr, Inhabited

namespace Range

/-- The text of a range between two texts. -/
def between (start stop : List Char) : String :=
  String.ofList ('[' :: start ++ [' ', 'T', 'O', ' '] ++ stop ++ [']'])

/-! ### Numeric ranges -/

/-- The text of a numeric bound. -/
def bound (n : Int) : List Char :=
  if n = openBound then wildcard.toList else Decimal.signed n

/-- The text of a numeric range. -/
def numeric (start stop : Int) : String := between (bound start) (bound stop)

/-! ### Date ranges -/

/-- The first instant of a day. -/
def dayStart : List Char := "T00:00:00.000Z".toList

/-- The last instant of a day. -/
def dayEnd : List Char := "T23:59:59.999Z".toList

/-- The text of the range from one date-time to another. -/
def render (start stop : DateTime) : Precision → String
  | .day => between (start.date.render ++ dayStart) (stop.date.render ++ dayEnd)
  | .millisecond => between start.timestamp stop.timestamp

/-- The text of a date range.  Both bounds are resolved, the first one first,
before they are compared. -/
def dates (start stop : DateBound) (precision : Precision) : Except ValueError String := do
  let start ← start.resolve
  let stop ← stop.resolve
  if stop < start then .error (.invertedRange start stop)
  else .ok (render start stop precision)

/-- The date-times that some bounds stand for, or the first bound's error. -/
def resolveAll : List DateBound → Except ValueError (List DateTime)
  | [] => .ok []
  | b :: bs => do
    let t ← b.resolve
    let ts ← resolveAll bs
    .ok (t :: ts)

/-- The text of the smallest range that holds all of `bounds`. -/
def spanning (bounds : List DateBound) (precision : Precision) : Except ValueError String := do
  match ← resolveAll bounds with
  | [] => .error .noDates
  | t :: ts => .ok (render (ts.foldl DateTime.earlier t) (ts.foldl DateTime.later t) precision)

end Range

end SearchClient
