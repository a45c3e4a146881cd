import SearchClient.Document.Modifier
import SearchClient.Json.Text

/-!
# Documents

A document is an object of fields.  In a *new* document a field holds its value;
in an *update* it holds an object with one member, the change to be made.

## Main definitions

* `Document`, `DocumentError` — documents and what can go wrong with them.
* `Document.get`, `Document.getModified`, `Document.getRaw` — the value of a
  field, the value under one modifier, and what the field holds.
* `Document.summary` — a short text in which long strings are cut.
-/

namespace SearchClient

/-- What can go wrong with a document. -/
inductive DocumentError
  /-- A new document takes plain values only. -/
  | modifierOnNew (modifier : Modifier) (field : String)
  /-- The field holds no change. -/
  | notAtomic (field : String)
  /-- The field holds no value under the modifier. -/
  | noModifierValue (modifier : Modifier) (field : String)
  /-- The field holds a change without any value. -/
  | noValue (field : String)
  deriving DecidableEq, Repr, Inhabited

/-- The error in words. -/
def DocumentError.message : DocumentError → String
  | .modifierOnNew m f => "Use set_field for new documents, got " ++ m.title ++ " for field: " ++ f
  | .notAtomic f => "Field is not an atomic update: " ++ f
  | .noModifierValue m f => "No " ++ m.title ++ " value for field: " ++ f
  | .noValue f => "No modifier value for field: " ++ f

/-- A document: its fields, in ascending order of their names. -/
structure Document where
  /-- The fields and what they hold. -/
  fields : Members
  deriving Repr, Inhabited

namespace Document

/-! ### Looking up a field -/

/-- The value under a modifier, unless it is `null`. -/
def valueUnder? (m : Modifier) (changes : Members) : Option Json :=
  (changes.get? m.name).filter fun v => !v.isNull

/-- What a field holds. -/
def getRaw (d : Document) (field : String) : Option Json := d.fields.get? field

/-- The value under one modifier of a field. -/
def getModified (d : Document) (field : String) (m : Modifier) : Except DocumentError Json :=
  match d.getRaw field with
  | some (.object changes) =>
    match valueUnder? m changes with
    | some v => .ok v
    | none => .error (.noModifierValue m field)
  | _ => .error (.notAtomic field)

/-- The value of a field; for a change, the value under the first modifier that
has one. -/
def get (d : Document) (field : String) : Except DocumentError (Option Json) :=
  match d.getRaw field with
  | some (.object changes) =>
    match Modifier.all.findSome? fun m => valueUnder? m changes with
    | some v => .ok (some v)
    | none => .error (.noValue field)
  | other => .ok other

/-! ### Texts -/

/-- The object that the document is sent as. -/
def toJson (d : Document) : Json := .object d.fields

/-- The number of characters of a string that a summary shows. -/
def summaryLimit : Nat := 30

/-- A value as a summary shows it. -/
def summarize : Json → List Char
  | .string s => s.toList.take summaryLimit
  | v => v.chars

/-- A short text of the document for a log. -/
def summary (d : Document) : String :=
  String.ofList ("InputDoc\x7b".toList ++
    d.fields.flatMap (fun m => m.1.toList ++ '=' :: summarize m.2 ++ [';']) ++ ['\x7d'])

end Document

end SearchClient
