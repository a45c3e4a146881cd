import SearchClient.Decimal.Shortest

/-!
# Scalars

The single values that a field can be compared with, and their texts.

## Main definitions

* `Scalar`, `Scalar.render` — single values and their texts.
-/

namespace SearchClient

/-- A single value. -/
inductive Scalar
  /-- A text, used verbatim. -/
  | text (s : String)
  /-- A whole number. -/
  | int (n : Int)
  /-- A truth value. -/
  | bool (b : Bool)
  /-- A single character. -/
  | char (c : Char)
  /-- A double. -/
  | double (x : Float)
  deriving Repr, Inhabited

/-- The text of a single value. -/
def Scalar.render : Scalar → String
  | .text s => s
  | .int n => Decimal.text n
  | .bool true => "true"
  | .bool false => "false"
  | .char c => String.ofList [c]
  | .double x => String.ofList (Decimal.ofDouble x)

end SearchClient
