import SearchClient.Text.Lowercase
import SearchClient.Text.Names

/-!
# Modifiers

What an atomic update does to one field of a document.  A modifier has a key in documents,
a title in text and a tag in data; the latter two are its identifier in lower case.

## Main definitions

* `Modifier`, `Modifier.all` — the modifiers, in order of precedence.
* `Modifier.name` — the keys under which changes stand in documents.
* `Modifier.identifier`, `Modifier.title`, `Modifier.tag` — their identifiers, and what they
  are called in text and in data.
* `Modifier.ofName?`, `Modifier.ofString` — read from text, and from a string of JSON.
-/

namespace SearchClient

/-- A change to one field of a document that exists already. -/
inductive Modifier
  /-- Adds a value to a list. -/
  | add
  /-- Replaces the value; `null` takes it away. -/
  | set
  /-- Removes a value, or a list of values, from a list. -/
  | remove
  /-- Removes the members of a list that match a regular expression. -/
  | removeRegex
  /-- Adds a number to the value. -/
  | inc
  deriving DecidableEq, Repr, Inhabited

namespace Modifier

/-- All modifiers, those that are looked at first coming first. -/
def all : List Modifier := [.add, .set, .remove, .removeRegex, .inc]

theorem mem_all (m : Modifier) : m ∈ all := by cases m <;> decide

/-- The key under which a document holds a change by the modifier. -/
def name : Modifier → String
  | .add => "add"
  | .set => "set"
  | .remove => "remove"
  | .removeRegex => "removeregex"
  | .inc => "inc"

/-- The identifier of a modifier. -/
def identifier : Modifier → String
  | .add => "Add"
  | .set => "Set"
  | .remove => "Remove"
  | .removeRegex => "RemoveRegex"
  | .inc => "Inc"

/-- What a modifier is called in text. -/
def title (m : Modifier) : String := Text.lowercase m.identifier

/-- What a modifier is called in data. -/
def tag (m : Modifier) : String := lowerAscii m.identifier

/-- The modifier that a text names: it has exactly the text as its title. -/
def ofName? (text : String) : Option Modifier := all.find? fun m => m.title = text

/-- The modifier whose tag a string of JSON is; if it is none, the tags are listed. -/
def ofString (text : String) : Except NameError Modifier :=
  match all.find? fun m => m.tag = text with
  | some m => .ok m
  | none => .error (.unlisted text (all.map tag))

end Modifier

end SearchClient
