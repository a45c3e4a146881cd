import SearchClient.Json.Text
import SearchClient.Settings.Fields
import SearchClient.Text.Quoted

/-!
# Settings in an object

Settings are read from the members of an object.  Numbers are given as strings
of digits.  The members are read in the order of their keys, and the first one
that does not fit is reported; only then is it looked whether one is missing.
Members under other keys do not matter.

## Main definitions

* `DecodeError`, `DecodeError.message` — why an object holds no settings.
* `Decode.reader` — how members are read.
* `Settings.ofMembers` — the settings that an object holds.
-/

namespace SearchClient

/-- The kind of a value, and the value if it is a single one. -/
def Json.describe : Json → String
  | .null => "null"
  | .bool b => "boolean `" ++ (if b then "true" else "false") ++ "`"
  | .int n => "integer `" ++ Decimal.text n ++ "`"
  | .decimal m p => "floating point `" ++ String.ofList (Json.renderDecimal m p) ++ "`"
  | .string s => "string " ++ Text.quoted s
  | .array _ => "sequence"
  | .object _ => "map"

/-- Why a value is not taken for a setting. -/
inductive DecodeError
  /-- No member has the key. -/
  | missing (key : String)
  /-- The value is of another kind. -/
  | wrongKind (found : Json) (expected : String)
  /-- The text is no number within bounds. -/
  | badInteger (cause : IntegerError)
  /-- No protocol has the name. -/
  | unknownProtocol (name : String)
  /-- A protocol that is given as an object has one member. -/
  | notOneMember
  deriving Repr, Inhabited

/-- The error in words. -/
def DecodeError.message : DecodeError → String
  | .missing key => "missing field `" ++ key ++ "`"
  | .wrongKind found expected => "invalid type: " ++ found.describe ++ ", expected " ++ expected
  | .badInteger cause => cause.message
  | .unknownProtocol name => (NameError.unlisted name (Protocol.all.map Protocol.tag)).message
  | .notOneMember => "invalid value: map, expected map with a single key"

namespace Decode

/-- A string. -/
def string : Json → Except DecodeError String
  | .string s => .ok s
  | v => .error (.wrongKind v "a string")

/-- A truth value. -/
def bool : Json → Except DecodeError Bool
  | .bool b => .ok b
  | v => .error (.wrongKind v "a boolean")

/-- The protocol with exactly the given tag. -/
def protocolName (name : String) : Except DecodeError Protocol :=
  match Protocol.ofTag? name with
  | some p => .ok p
  | none => .error (.unknownProtocol name)

/-- A protocol: its tag, or an object that has the tag as its only key and
holds nothing under it. -/
def protocol : Json → Except DecodeError Protocol
  | .string s => protocolName s
  | .object [(name, v)] => do
    let p ← protocolName name
    if v.isNull then .ok p else .error (.wrongKind v "unit")
  | .object _ => .error .notOneMember
  | v => .error (.wrongKind v "string or map")

/-- How members are read.  Their keys do not matter. -/
def reader : Settings.Reader DecodeError Json where
  string _ := string
  bool _ := bool
  protocol _ := protocol
  badInteger := .badInteger
  missing := .missing

end Decode

namespace Settings

/-- How a field is read. -/
def Field.decode : (f : Field) → Json → Except DecodeError f.Value := Decode.reader.field

/-- The settings that the members of an object hold. -/
def ofMembers (ms : Members) : Except DecodeError Settings :=
  Decode.reader.settings fun key => ms.get? key

end Settings

end SearchClient
