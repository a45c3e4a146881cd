import SearchClient.Settings.Error
import SearchClient.Settings.Fields
import SearchClient.Text.Lowercase

/-!
# Settings in configuration values

A setting may be given in several ways: numbers as numbers or texts, truth
values as numbers or words, a protocol as a name or as a table with one entry.

## Main definitions

* `Convert.string`, `Convert.bool`, `Convert.protocol` — one setting.
* `Convert.reader` — how settings are read from configuration values.
* `Settings.ofEntries` — all of them.
-/

namespace SearchClient

namespace Convert

/-- A text; numbers and truth values are written out. -/
def string (key : String) : Node → Except ConfigError String
  | .text s => .ok s
  | .int n => .ok (Decimal.text n)
  | .bool b => .ok (if b then "true" else "false")
  | .float x => .ok (String.ofList (Decimal.ofDouble x))
  | v => .error (.wrongKind v "a string" key)

/-- The truth value that a word in lower case stands for. -/
def word? (s : String) : Option Bool :=
  if s = "1" ∨ s = "true" ∨ s = "on" ∨ s = "yes" then some true
  else if s = "0" ∨ s = "false" ∨ s = "off" ∨ s = "no" then some false
  else none

/-- A truth value: a number other than zero is true, and words are taken in capital
or small letters. -/
def bool (key : String) : Node → Except ConfigError Bool
  | .bool b => .ok b
  | .int n => .ok (n != 0)
  | .float x => .ok (x != 0)
  | .text s =>
    let s := Text.lowercase s
    match word? s with
    | some b => .ok b
    | none => .error (.wrongKind (.text s) "a boolean" key)
  | v => .error (.wrongKind v "a boolean" key)

/-- A protocol: its tag, in capital or small letters, or a table with the tag as its only
entry. -/
def protocol (v : Node) : Except ConfigError Protocol :=
  let named (name : String) : Except ConfigError Protocol :=
    match Protocol.ofTag? (lowerAscii name) with
    | some p => .ok p
    | none => .error (.unknownProtocol name)
  match v with
  | .text s => named s
  | .table [(name, _)] => named name
  | _ => .error .badProtocol

/-- How configuration values are read. -/
def reader : Settings.Reader ConfigError Node where
  string := string
  bool := bool
  protocol _ := protocol
  badInteger := .badInteger
  missing := .missing

end Convert

namespace Settings

/-- How a field is converted. -/
def Field.convert : (f : Field) → Node → Except ConfigError f.Value := Convert.reader.field

/-- The settings that some configuration values hold.  A value that does not fit is
reported before one that is missing.  Of several values that do not fit, the one whose field
has the least name is reported; that is a choice, for a table has no order of its own. -/
def ofEntries (es : Entries) : Except ConfigError Settings :=
  Convert.reader.settings fun key => es.get? key

end Settings

end SearchClient
