import SearchClient.Document.Basic

/-!
# Drafts

A document is built edit by edit from a draft that holds its identifier.  An
edit that fails leaves the draft as it was.

## Main definitions

* `Draft` — a document under construction.
* `Edit`, `Draft.apply`, `Draft.attempt`, `Draft.run` — edits, one or many.
-/

namespace SearchClient

/-- What a draft becomes. -/
inductive DraftKind
  /-- A new document, with plain values. -/
  | new
  /-- An update of a document that exists, with changes. -/
  | update
  deriving DecidableEq, Repr, Inhabited

/-- A document under construction. -/
structure Draft where
  /-- What the draft becomes. -/
  kind : DraftKind
  /-- The fields so far. -/
  fields : Members
  deriving Repr, Inhabited

/-- An edit of a draft. -/
inductive Edit
  /-- Gives a field a value. -/
  | set (field : String) (value : Json)
  /-- Adds a value to a field of an update. -/
  | add (field : String) (value : Json)
  /-- Makes any change to a field of an update. -/
  | modify (field : String) (modifier : Modifier) (value : Json)
  deriving Repr, Inhabited

/-- The change that a modifier makes with a value.  An empty list stands for no
value. -/
def Modifier.change (m : Modifier) (value : Json) : Json :=
  match value with
  | .array [] => .object [(m.name, .null)]
  | v => .object [(m.name, v)]

namespace Draft

/-- A draft that holds the identifier alone. -/
def start (kind : DraftKind) (idField : String) (id : Json) : Draft := ⟨kind, [(idField, id)]⟩

/-- The draft with a field replaced. -/
def put (d : Draft) (field : String) (held : Json) : Draft :=
  { d with fields := d.fields.insert field held }

/-- Gives a field a value.  On an update this is a change, and `null` is
ignored. -/
def set (d : Draft) (field : String) (value : Json) : Draft :=
  match d.kind with
  | .new => d.put field value
  | .update => if value.isNull then d else d.put field (Modifier.set.change value)

/-- Makes a change to a field; only updates take changes. -/
def modify (d : Draft) (field : String) (m : Modifier) (value : Json) :
    Except DocumentError Draft :=
  match d.kind with
  | .new => .error (.modifierOnNew m field)
  | .update => .ok (d.put field (m.change value))

/-- Makes an edit. -/
def apply (d : Draft) : Edit → Except DocumentError Draft
  | .set f v => .ok (d.set f v)
  | .add f v => d.modify f .add v
  | .modify f m v => d.modify f m v

/-- Makes an edit, or none if it fails. -/
def attempt (d : Draft) (e : Edit) : Draft :=
  match d.apply e with
  | .ok d' => d'
  | .error _ => d

/-- Makes some edits, leaving out those that fail. -/
def run (d : Draft) (edits : List Edit) : Draft := edits.foldl attempt d

/-- The finished document. -/
def finish (d : Draft) : Document := ⟨d.fields⟩

end Draft

end SearchClient
