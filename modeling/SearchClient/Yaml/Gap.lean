import SearchClient.Yaml.Cursor

/-!
# Gaps between words

Inside a scalar blanks on one line stay as they are.  Line ends are folded: one
becomes a space, and of several all but the first stay; the blanks around them
are dropped.

## Main definitions

* `foldLineEnds` — what line ends stand for.
* `Gap` — what stands between two words of a scalar.
-/

namespace SearchClient.Yaml

/-- What some line ends inside a scalar stand for. -/
def foldLineEnds : Nat → List Char
  | 0 => []
  | 1 => [' ']
  | n + 2 => List.replicate (n + 1) '\n'

/-- What stands between two words of a scalar. -/
inductive Gap
  /-- Blanks on the same line, the last one first. -/
  | blanks (reversed : List Char)
  /-- Line ends, and how many there are. -/
  | lineEnds (count : Nat)
  /-- A line end that does not count, and how many follow it. -/
  | escaped (count : Nat)
  deriving DecidableEq, Repr, Inhabited

namespace Gap

/-- Nothing. -/
def none : Gap := .blanks []

/-- What stands in the scalar. -/
def text : Gap → List Char
  | .blanks r => r.reverse
  | .lineEnds n => foldLineEnds n
  | .escaped n => List.replicate n '\n'

/-- A further blank; after a line end it does not count. -/
def blank (c : Char) : Gap → Gap
  | .blanks r => .blanks (c :: r)
  | g => g

/-- A further line end. -/
def lineEnd : Gap → Gap
  | .blanks _ => .lineEnds 1
  | .lineEnds n => .lineEnds (n + 1)
  | .escaped n => .escaped (n + 1)

/-- Whether a line has ended in the gap. -/
def newLine : Gap → Bool
  | .blanks _ => false
  | _ => true

end Gap

end SearchClient.Yaml
