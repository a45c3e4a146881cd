import SearchClient.Config.Node
import SearchClient.Decimal.Numeral

/-!
# Paths to configuration values

The name of a value may be a path: names with full stops between them lead into
tables, and numbers in square brackets into lists.  A name that is no path is
taken as it is.

## Main definitions

* `KeyPath`, `KeyPath.ofName` — paths.
* `Node.merge`, `Entries.store` — a value put under a name, tables entry by entry.
* `KeyPath.assign` — a value put at the end of a path.
-/

namespace SearchClient

/-- A step of a path. -/
inductive KeyPath.Step
  /-- To an entry of a table. -/
  | entry (name : String)
  /-- To an element of a list; negative numbers count from its end. -/
  | element (index : Int)
  deriving DecidableEq, Repr, Inhabited

/-- A path to a value: an entry of the outermost table, and further steps. -/
structure KeyPath where
  /-- The entry of the outermost table. -/
  first : String
  /-- The steps from there. -/
  steps : List KeyPath.Step
  deriving DecidableEq, Repr, Inhabited

namespace KeyPath

/-! ### Reading paths -/

/-- The characters of the names in a path. -/
def isNameChar (c : Char) : Bool := c.isAlphanum || c == ' ' || c == '_' || c == '-'

/-- Blanks and line ends. -/
def isSpace (c : Char) : Bool := c == ' ' || c == '\t' || c == '\n' || c == '\r'

/-- Whether a number fits 64 bits with a sign. -/
def fitsIndex (i : Int) : Bool := -9223372036854775808 ≤ i && i ≤ 9223372036854775807

/-- A number in brackets, and what follows the closing bracket. -/
def index? (cs : List Char) : Option (Int × List Char) :=
  let cs := cs.dropWhile isSpace
  let (negative, cs) := match cs with
    | '-' :: r => (true, r)
    | r => (false, r)
  let digits := cs.takeWhile fun c => (Decimal.digitValue? c).isSome
  match Decimal.numeralValue? digits, (cs.drop digits.length).dropWhile isSpace with
  | some n, ']' :: r =>
    let i := if negative then -(n : Int) else n
    if fitsIndex i then some (i, r) else none
  | _, _ => none

/-- Reads the steps of a path; `fuel` is more than the number of characters. -/
def steps? : Nat → List Char → Option (List Step)
  | _, [] => some []
  | 0, _ => none
  | fuel + 1, '.' :: cs =>
    let name := cs.takeWhile isNameChar
    if name.isEmpty then none
    else (steps? fuel (cs.drop name.length)).map (.entry (String.ofList name) :: ·)
  | fuel + 1, '[' :: cs => do
    let (i, rest) ← index? cs
    (steps? fuel rest).map (.element i :: ·)
  | _, _ => none

/-- Reads a path. -/
def ofName? (s : String) : Option KeyPath :=
  let cs := s.toList
  let name := cs.takeWhile isNameChar
  if name.isEmpty then none
  else (steps? (cs.length + 1) (cs.drop name.length)).map fun steps => ⟨String.ofList name, steps⟩

/-- The path that a name is; if it is none, the entry of that name. -/
def ofName (s : String) : KeyPath := (ofName? s).getD ⟨s, []⟩

end KeyPath

/-! ### Storing values -/

/-- The entries of a table; other values have none. -/
def Node.entries : Node → Entries
  | .table es => es
  | _ => []

/-- The elements of a list; other values have none. -/
def Node.elements : Node → List Node
  | .list vs => vs
  | _ => []

mutual

/-- A value put where `old` stood.  A table is put there entry by entry, so it
keeps what it does not replace; any other value replaces all. -/
def Node.merge (old : Option Node) : Node → Node
  | .table es => Node.mergeEntries (old.getD (.table [])) es
  | v => v

/-- Entries put into a value one by one.  A value that is no table becomes one
with the first of them. -/
def Node.mergeEntries (target : Node) : List (String × Node) → Node
  | [] => target
  | (k, v) :: es =>
    Node.mergeEntries (.table (target.entries.put k (Node.merge (target.entries.get? k) v))) es

end

/-- The entries with a value put under a name. -/
def Entries.store (es : Entries) (name : String) (value : Node) : Entries :=
  es.put name (Node.merge (es.get? name) value)

/-- Where a list has the element of an index, if that is not before its start. -/
def positionOf? (index : Int) (length : Nat) : Option Nat :=
  if 0 ≤ index then some index.toNat
  else if index.natAbs ≤ length then some (length - index.natAbs) else none

namespace KeyPath

/-- The value with another one put at the end of some steps.  Tables and lists on
the way are made where there are none. -/
def assignSteps (value : Node) : List Step → Option Node → Node
  | [], old => Node.merge old value
  | .entry name :: steps, old =>
    let es := (old.map Node.entries).getD []
    .table (es.put name (assignSteps value steps (es.get? name)))
  | .element index :: steps, old =>
    let vs := (old.map Node.elements).getD []
    match positionOf? index vs.length with
    | none => .list vs
    | some i =>
      let vs := vs ++ List.replicate (i + 1 - vs.length) Node.null
      .list (vs.set i (if steps.isEmpty then value else assignSteps value steps vs[i]?))

/-- The entries with a value put at the end of a path. -/
def assign (p : KeyPath) (value : Node) (es : Entries) : Entries :=
  es.put p.first (assignSteps value p.steps (es.get? p.first))

end KeyPath

end SearchClient
