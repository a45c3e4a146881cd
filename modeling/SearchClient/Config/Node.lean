/-!
# Configuration values

The values that configuration files and variables hold.

## Main definitions

* `Node` — a configuration value.
* `Entries.get?`, `Entries.put` — the entries of a table.
-/

namespace SearchClient

/-- A configuration value. -/
inductive Node
  /-- No value. -/
  | null
  /-- A truth value. -/
  | bool (b : Bool)
  /-- A whole number. -/
  | int (n : Int)
  /-- A double. -/
  | float (x : Float)
  /-- A text. -/
  | text (s : String)
  /-- A list of values. -/
  | list (elements : List Node)
  /-- Values under names. -/
  | table (entries : List (String × Node))
  deriving Repr, Inhabited

/-- The entries of a table; of two with the same name the first one counts. -/
abbrev Entries := List (String × Node)

namespace Entries

/-- The value under a name. -/
def get? (name : String) : Entries → Option Node
  | [] => none
  | (k, v) :: es => if k = name then some v else get? name es

/-- The entries with `value` under `name`; what was there is replaced. -/
def put (name : String) (value : Node) : Entries → Entries
  | [] => [(name, value)]
  | (k, v) :: es => if k = name then (k, value) :: es else (k, v) :: put name value es

@[simp] theorem get?_nil (name : String) : get? name [] = none := rfl

@[simp] theorem put_nil (name : String) (v : Node) : put name v [] = [(name, v)] := rfl

theorem get?_put_self (name : String) (v : Node) (es : Entries) :
    get? name (put name v es) = some v := by
  induction es with
  | nil => simp [get?]
  | cons e es ih => by_cases h : e.1 = name <;> simp [put, get?, h, ih]

theorem get?_put_of_ne {name other : String} (h : other ≠ name) (v : Node) (es : Entries) :
    get? other (put name v es) = get? other es := by
  induction es with
  | nil => simp [get?, h.symm]
  | cons e es ih => grind [put, get?]

end Entries

end SearchClient
