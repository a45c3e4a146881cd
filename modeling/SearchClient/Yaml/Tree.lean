import SearchClient.Yaml.Resolve

/-!
# From tokens to values

Lists and tables nest as their tokens do.  A name stands for the value that it was
given last; while that value is being read, it stands for nothing.

## Main definitions

* `Scope` — the names of values and the short names of families of kinds.
* `Reading` — what is left to read, and the scope.
* `node?` — reads a value.
-/

namespace SearchClient.Yaml

/-! ### Names -/

/-- The names in use. -/
structure Scope where
  /-- The names of values and the numbers of these values, the last one first. -/
  names : List (String × Nat)
  /-- The values with a number. -/
  values : List (Nat × Node)
  /-- The short names of families of kinds, and what they stand for. -/
  families : List (String × String)
  deriving Repr, Inhabited

namespace Scope

/-- A further name for a value that is yet to be read. -/
def bind (s : Scope) (name : String) : Scope :=
  { s with names := (name, s.names.length) :: s.names }

/-- The value with a number has been read. -/
def complete (s : Scope) (number : Option Nat) (v : Node) : Scope :=
  match number with
  | some n => { s with values := (n, v) :: s.values }
  | none => s

/-- The value with a name, or no value if it has not been read to its end. -/
def get? (s : Scope) (name : String) : Option Node :=
  (s.names.lookup name).map fun n => (s.values.lookup n).getD .null

/-- A tag with the meaning of its short name.  Two exclamation marks stand for the
built-in kinds; other short names between exclamation marks have to be given. -/
def resolve? (s : Scope) (t : Tag) : Option Tag :=
  match s.families.lookup t.handle with
  | some meaning => some { t with handle := meaning }
  | none =>
    if t.handle = "!!" then some { t with handle := builtinFamily }
    else if t.handle = "" ∨ t.handle = "!" then some t
    else none

end Scope

/-! ### Entries -/

/-- A name as it has been read: names that are written as numbers differ from texts
with the same digits. -/
inductive Key
  /-- A text. -/
  | text (s : String)
  /-- A whole number. -/
  | int (n : Int)
  deriving DecidableEq, Repr, Inhabited

namespace Key

/-- The name that a value gives an entry.  Other values name nothing. -/
def ofNode? : Node → Option Key
  | .text s => some (.text s)
  | .int n => some (.int n)
  | _ => none

/-- The name as a text. -/
def name : Key → String
  | .text s => s
  | .int n => Decimal.text n

end Key

/-- The table with the given entries, the last one first. -/
def tableOf (entries : List (Key × Node)) : Node :=
  .table (entries.reverse.foldl (fun es e => Entries.put e.1.name e.2 es) [])

/-- A further entry, whose name must not be in use. -/
def addEntry? (k v : Node) (entries : List (Key × Node)) : Option (List (Key × Node)) := do
  let key ← Key.ofNode? k
  if entries.any fun e => e.1 == key then none else some ((key, v) :: entries)

/-! ### Readings -/

/-- What is left to read. -/
structure Reading where
  /-- The tokens that follow. -/
  rest : List Token
  /-- The names in use. -/
  scope : Scope
  deriving Repr, Inhabited

namespace Reading

/-- Past the next token. -/
def next (r : Reading) : Reading := { r with rest := r.rest.tail }

/-- Whether one of some tokens follows. -/
def sees (r : Reading) (ts : List Token) : Bool := r.rest.head?.any ts.contains

/-- The name of the value that follows, as a number. -/
def anchor (r : Reading) : Option Nat × Reading :=
  match r.rest with
  | .anchor name :: ts => (some r.scope.names.length, ⟨ts, r.scope.bind name⟩)
  | _ => (none, r)

/-- The tag of the value that follows. -/
def tag? (r : Reading) : Option (Option Tag × Reading) :=
  match r.rest with
  | .tag t :: ts => (r.scope.resolve? t).map fun t => (some t, ⟨ts, r.scope⟩)
  | _ => some (none, r)

/-- What may stand before a value: its number and its tag, in either order. -/
def properties? (r : Reading) : Option (Option Nat × Option Tag × Reading) := do
  let (early, r) := r.anchor
  let (tag, r) ← r.tag?
  let (late, r) := if early.isNone then r.anchor else (none, r)
  some (early.or late, tag, r)

/-- Past the comma after a part of a list or table in brackets, or up to its end. -/
def pastPart? (close : Token) (r : Reading) : Option Reading :=
  if r.sees [.comma] then some r.next else if r.sees [close] then some r else none

end Reading

/-! ### Lists and tables -/

/-- Reads a value from what is left. -/
abbrev Reader := Reading → Option (Node × Reading)

/-- Reads a part of a list or a table, which is missing if a token follows that ends
it. -/
def part? (read? : Reader) (ends : List Token) (r : Reading) : Option (Node × Reading) :=
  if r.sees ends then some (.null, r) else read? r

/-- Reads the name and the value of an entry. -/
def entry? (read? : Reader) (ends : List Token) (r : Reading) :
    Option (Node × Node × Reading) := do
  let (k, r) ← part? read? ends r
  let (v, r) ← if r.sees [.value] then part? read? ends r.next else some (.null, r)
  some (k, v, r)

/-- Reads what follows the elements of a list by indentation so far, the last one
first. -/
def blockList? (read? : Reader) : Nat → List Node → Reader
  | 0, _, _ => none
  | fuel + 1, elements, r =>
    if r.sees [.blockEnd] then some (.list elements.reverse, r.next)
    else if r.sees [.item] then do
      let (v, r) ← part? read? [.item, .blockEnd] r.next
      blockList? read? fuel (v :: elements) r
    else none

/-- Reads what follows the elements so far of a list that stands at the column of the
table around it.  No token marks its end. -/
def bareList? (read? : Reader) : Nat → List Node → Reader
  | 0, _, _ => none
  | fuel + 1, elements, r =>
    if r.sees [.item] then do
      let (v, r) ← part? read? [.item, .key, .value, .blockEnd] r.next
      bareList? read? fuel (v :: elements) r
    else some (.list elements.reverse, r)

/-- Reads what follows the entries of a table by indentation so far, the last one
first. -/
def blockTable? (read? : Reader) : Nat → List (Key × Node) → Reader
  | 0, _, _ => none
  | fuel + 1, entries, r =>
    if r.sees [.blockEnd] then some (tableOf entries, r.next)
    else if r.sees [.key] then do
      let (k, v, r) ← entry? read? [.key, .value, .blockEnd] r.next
      blockTable? read? fuel (← addEntry? k v entries) r
    else none

/-- Reads what follows the elements of a list in brackets so far, the last one first.
An element may be a single entry of a table. -/
def bracketList? (read? : Reader) : Nat → List Node → Reader
  | 0, _, _ => none
  | fuel + 1, elements, r =>
    if r.sees [.bracketClose] then some (.list elements.reverse, r.next)
    else do
      let (v, r) ←
        if r.sees [.key] then do
          let (k, v, r) ← entry? read? [.value, .comma, .bracketClose] r.next
          some (tableOf (← addEntry? k v []), r)
        else read? r
      bracketList? read? fuel (v :: elements) (← r.pastPart? .bracketClose)

/-- Reads what follows the entries of a table in braces so far, the last one first.
An entry may have no value. -/
def braceTable? (read? : Reader) : Nat → List (Key × Node) → Reader
  | 0, _, _ => none
  | fuel + 1, entries, r =>
    if r.sees [.braceClose] then some (tableOf entries, r.next)
    else do
      let (k, v, r) ←
        if r.sees [.key] then entry? read? [.value, .comma, .braceClose] r.next
        else (read? r).map fun (k, r) => (k, .null, r)
      braceTable? read? fuel (← addEntry? k v entries) (← r.pastPart? .braceClose)

/-! ### Values -/

/-- A value of which only the name or the tag is there. -/
def missing? (number : Option Nat) (tag : Option Tag) (r : Reading) : Option (Node × Reading) :=
  if number.isNone && tag.isNone then none
  else (tag.elim (resolve? "") (resolveAs? · "")).map fun v => (v, r)

/-- Reads a value.  Lists and tables by indentation may stand only where `block` says
so, and a list at the column of the table around it only where `bare` says so. -/
def node? : Nat → Bool → Bool → Reader
  | 0, _, _, _ => none
  | fuel + 1, block, bare, r =>
    match r.rest with
    | .alias name :: _ => (r.scope.get? name).map fun v => (v, r.next)
    | _ => do
      let (number, tag, r) ← r.properties?
      let size := r.rest.length + 1
      let missing := missing? number tag r
      let (v, r) ← match r.rest with
        | .plain s :: _ => (tag.elim (resolve? s) (resolveAs? · s)).map fun v => (v, r.next)
        | .text s :: _ => some (.text s, r.next)
        | .item :: _ => if bare then bareList? (node? fuel true false) size [] r else missing
        | .listStart :: _ =>
          if block then blockList? (node? fuel true false) size [] r.next else missing
        | .tableStart :: _ =>
          if block then blockTable? (node? fuel true true) size [] r.next else missing
        | .bracketOpen :: _ => bracketList? (node? fuel false false) size [] r.next
        | .braceOpen :: _ => braceTable? (node? fuel false false) size [] r.next
        | _ => missing
      some (v, { r with scope := r.scope.complete number v })

end SearchClient.Yaml
