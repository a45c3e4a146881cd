import SearchClient.Query.Basic
import SearchClient.Value.Alternatives
import SearchClient.Value.Range
import SearchClient.Value.Scalar

/-!
# Completing a clause

A selector names a field and says how its clause is to be written; completing it
with a value gives a query of one leaf.  A selector can be completed any number
of times.

## Main definitions

* `Selector` — a field that awaits its value.
* `Selector.is`, `Selector.isOneOf`, `Selector.isWithin`, … — completions.
* `Query.absent` — the documents without any value in a field.
-/

namespace SearchClient

/-- A field that awaits its value. -/
structure Selector where
  /-- Text to put before the whole clause. -/
  lead : Option String
  /-- The field. -/
  field : String
  /-- Whether the documents that match are to be left out. -/
  excluded : Bool
  deriving DecidableEq, Repr, Inhabited

namespace Selector

/-! ### Selectors -/

/-- The documents in which the field has the value. -/
def including (field : String) : Selector := ⟨none, field, false⟩

/-- The same with a text before the clause. -/
def leading (lead field : String) : Selector := ⟨some lead, field, false⟩

/-- The documents in which the field does not have the value. -/
def excluding (field : String) : Selector := ⟨none, field, true⟩

/-- One of the two, as `condition` says. -/
def excludingIf (condition : Bool) (field : String) : Selector := ⟨none, field, condition⟩

/-! ### Completions -/

/-- The clause with the given text as its value. -/
def complete (s : Selector) (value : String) : Query :=
  .leaf ⟨s.lead, s.field, value, s.excluded⟩

/-- The field is true. -/
def isTrue (s : Selector) : Query := s.complete "true"

/-- The field is false. -/
def isFalse (s : Selector) : Query := s.complete "false"

/-- The field is a single value, written verbatim. -/
def is (s : Selector) (value : Scalar) : Query := s.complete value.render

/-- The field is any of the values. -/
def isOneOf (s : Selector) (values : List Scalar) : Except ValueError Query :=
  (Alternatives.render (values.map Scalar.render)).map s.complete

/-- The field is any of the values, each of which is written once. -/
def isOneOfDistinct (s : Selector) (values : List String) : Except ValueError Query :=
  (Alternatives.renderDistinct values).map s.complete

/-- The field is a number in a range; a bound of -1 is open. -/
def isWithin (s : Selector) (start stop : Int) : Query := s.complete (Range.numeric start stop)

/-- The field is a date in a range. -/
def isWithinDates (s : Selector) (precision : Precision) (start stop : DateBound) :
    Except ValueError Query :=
  (Range.dates start stop precision).map s.complete

/-- The field is the date, or on its day at day precision. -/
def isOnDate (s : Selector) (precision : Precision) (date : DateBound) :
    Except ValueError Query :=
  s.isWithinDates precision date date

/-- The field is in the smallest range that holds all of the dates. -/
def isWithinAll (s : Selector) (precision : Precision) (dates : List DateBound) :
    Except ValueError Query :=
  (Range.spanning dates precision).map s.complete

end Selector

/-- The documents without any value in a field. -/
def Query.absent (field : String) : Query :=
  (Selector.excluding field).isWithin openBound openBound

end SearchClient
