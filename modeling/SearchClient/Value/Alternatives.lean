import SearchClient.Query.Basic
import SearchClient.Value.Error

/-!
# Alternatives

A field can be compared with several values at once.  One value stands bare;
several stand in parentheses with the disjunction between them.

## Main definitions

* `Alternatives.render` — the text of a list of values.
* `Alternatives.distinct` — a list without its repetitions.
* `Alternatives.renderDistinct` — both together.
-/

namespace SearchClient.Alternatives

/-- Texts with `between` placed between any two neighbours. -/
def separated (between : String) : List String → String
  | [] => ""
  | [v] => v
  | v :: w :: vs => v ++ between ++ separated between (w :: vs)

/-- The text of a list of values; repeated values are repeated. -/
def render : List String → Except ValueError String
  | [] => .error .noValues
  | [v] => .ok v
  | vs => .ok ("(" ++ separated Operator.or.token vs ++ ")")

/-- The members of a list that `seen` does not hold, each at the place where it
first occurs. -/
def unseen (seen : List String) : List String → List String
  | [] => []
  | v :: vs => if v ∈ seen then unseen seen vs else v :: unseen (v :: seen) vs

/-- Every member of a list once, in the order of their first occurrences. -/
def distinct (vs : List String) : List String := unseen [] vs

/-- The text of a list of values without its repetitions. -/
def renderDistinct (vs : List String) : Except ValueError String := render (distinct vs)

end SearchClient.Alternatives
