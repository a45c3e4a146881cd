import SearchClient.Time.Timestamp

/-!
# Values that cannot be written

## Main definitions

* `ValueError`, `ValueError.message` — why a list or a range has no text.
-/

namespace SearchClient

/-- Why a value has no text. -/
inductive ValueError
  /-- A list of alternatives has no member. -/
  | noValues
  /-- A collection of dates has no member. -/
  | noDates
  /-- A range starts after its end. -/
  | invertedRange (start stop : DateTime)
  /-- A count of milliseconds lies outside the years in which dates are kept. -/
  | timestampOutOfRange (millis : Int)
  deriving DecidableEq, Repr, Inhabited

/-- The error in words. -/
def ValueError.message : ValueError → String
  | .noValues => "Values can not be empty"
  | .noDates => "Dates can not be empty"
  | .invertedRange start stop =>
    "End date must not be before start date: " ++ String.ofList start.render ++ " > " ++
      String.ofList stop.render
  | .timestampOutOfRange millis =>
    "Epoch milliseconds out of range: " ++ Decimal.text millis

end SearchClient
