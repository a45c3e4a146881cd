import SearchClient.Config.Node
import SearchClient.Decimal.Reader
import SearchClient.Yaml.Quoted
import SearchClient.Yaml.Token

/-!
# What plain scalars are

What a plain scalar looks like decides what it is: nothing, a truth value, a
whole number, a double or a text.  A tag may ask for one of these.

## Main definitions

* `resolve?` — the value of a plain scalar.
* `resolveAs?` — its value as a tag asks.
-/

namespace SearchClient.Yaml

/-- A whole number in a base, if it fits 64 bits with a sign. -/
def readInt? (base : Nat) (cs : List Char) : Option Int :=
  let (negative, digits) := match cs with
    | '-' :: r => (true, r)
    | '+' :: r => (false, r)
    | r => (false, r)
  if digits.isEmpty then none
  else
    ((ofBaseDigits? base 0 digits).map fun n => if negative then -(n : Int) else (n : Int)).filter
      fun z => -9223372036854775808 ≤ z && z ≤ 9223372036854775807

/-- The whole number that a plain scalar is. -/
def intOf? (cs : List Char) : Option Int :=
  let marked := match cs with
    | '0' :: 'x' :: r => readInt? 16 r
    | '0' :: 'o' :: r => readInt? 8 r
    | '+' :: r => readInt? 10 r
    | _ => none
  marked.or (readInt? 10 cs)

/-- The names with a full stop that infinity and the value that is no number have.
They are doubles that no decimal reads as. -/
def dottedNames : List String :=
  [".inf", ".Inf", ".INF", "+.inf", "+.Inf", "+.INF", "-.inf", "-.Inf", "-.INF", ".nan", ".NAN"]

/-- The value of a plain scalar; a double that no decimal reads as is refused. -/
def resolve? (s : String) : Option Node :=
  if s = "" ∨ s = "~" ∨ s = "null" then some .null
  else if s = "true" then some (.bool true)
  else if s = "false" then some (.bool false)
  else match intOf? s.toList with
    | some n => some (.int n)
    | none => match Decimal.readDouble? s.toList with
      | some x => some (.float x)
      | none => if s ∈ dottedNames then none else some (.text s)

/-- The family of the kinds that are built in. -/
def builtinFamily : String := "tag:yaml.org,2002:"

/-- The value of a plain scalar as a tag asks; it is no value if it does not look as
the tag asks.  Tags of other kinds make it a text. -/
def resolveAs? (t : Tag) (s : String) : Option Node :=
  if t.handle ≠ builtinFamily then some (.text s)
  else if t.kind = "bool" then
    some (if s = "true" then .bool true else if s = "false" then .bool false else .null)
  else if t.kind = "int" then some ((readInt? 10 s.toList).elim .null .int)
  else if t.kind = "float" then
    if s ∈ dottedNames then none else some ((Decimal.readDouble? s.toList).elim .null .float)
  else if t.kind = "null" then some .null
  else some (.text s)

end SearchClient.Yaml
