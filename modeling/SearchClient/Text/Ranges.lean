/-!
# Ranges of characters

A class of characters that no simple rule describes is given by ranges of their
numbers.

## Main definitions

* `inRanges` — whether a character lies in one of some ranges.
-/

namespace SearchClient.Text

/-- Whether a character lies in one of some ranges, given by their ends. -/
def inRanges (rs : List (Nat × Nat)) (c : Char) : Bool :=
  rs.any fun r => r.1 ≤ c.toNat && c.toNat ≤ r.2

end SearchClient.Text
