import SearchClient.Decimal.Unsigned
import SearchClient.Settings.Basic

/-!
# Settings field by field

Settings are put together in the same way wherever they come from.  The fields are read in the
order of their names, each of them from a value that may be missing, and the first field that
cannot be read is the error.  Only then is it looked whether a field is missing that has no
default.

## Main definitions

* `Field`, `Field.name`, `Field.Value` — the fields, their names and their types.
* `assemble` — settings put together from what is read for each field.
* `Reader` — how values of some kind are read.
* `Reader.field`, `Reader.settings` — a field, and settings, read from values of that kind.
-/

namespace SearchClient.Settings

/-! ### Fields -/

/-- The fields of settings. -/
inductive Field
  /-- How many milliseconds to wait for a connection. -/
  | connectionTimeout
  /-- The path of the collection. -/
  | core
  /-- The host of the server. -/
  | host
  /-- The port of the server. -/
  | port
  /-- The protocol. -/
  | protocol
  /-- How many milliseconds to wait for data. -/
  | socketTimeout
  /-- Whether changes become visible before they are stored for good. -/
  | softCommit
  deriving DecidableEq, Repr, Inhabited

namespace Field

/-- The name under which a field is given. -/
def name : Field → String
  | .connectionTimeout => "connection_timeout_ms"
  | .core => "core"
  | .host => "host"
  | .port => "port"
  | .protocol => "protocol"
  | .socketTimeout => "socket_timeout_ms"
  | .softCommit => "soft_commit"

/-- The type of a field. -/
def Value : Field → Type
  | .connectionTimeout => UInt64
  | .core => String
  | .host => String
  | .port => UInt16
  | .protocol => Protocol
  | .socketTimeout => UInt64
  | .softCommit => Bool

end Field

/-! ### Putting settings together -/

section Assemble

variable {ε : Type} (missing : String → ε)

/-- A value that has to be given. -/
def demand {α : Type} (name : String) : Option α → Except ε α
  | some x => .ok x
  | none => .error (missing name)

/-- Settings with the fields that are given and defaults for the others. -/
def complete (given : (f : Field) → Option f.Value) : Except ε Settings := do
  let host ← demand missing (Field.name .host) (given .host)
  let port ← demand missing (Field.name .port) (given .port)
  let core ← demand missing (Field.name .core) (given .core)
  return {
    protocol := (given .protocol).getD defaultProtocol
    host, port, core
    connectionTimeout := (given .connectionTimeout).getD defaultConnectionTimeout
    socketTimeout := (given .socketTimeout).getD defaultSocketTimeout
    softCommit := (given .softCommit).getD defaultSoftCommit }

/-- Settings put together from what is read for each field. -/
def assemble (read : (f : Field) → Except ε (Option f.Value)) : Except ε Settings := do
  let connection ← read .connectionTimeout
  let core ← read .core
  let host ← read .host
  let port ← read .port
  let protocol ← read .protocol
  let socket ← read .socketTimeout
  let soft ← read .softCommit
  complete missing fun
    | .connectionTimeout => connection
    | .core => core
    | .host => host
    | .port => port
    | .protocol => protocol
    | .socketTimeout => socket
    | .softCommit => soft

end Assemble

/-- What is read from a value, if there is one. -/
def readIf {ε α β : Type} (read : α → Except ε β) : Option α → Except ε (Option β)
  | none => .ok none
  | some v => (read v).map some

/-! ### Readers -/

/-- How values of some kind are read, each under the name of a field, and what is said about a
number that does not fit and about a field that is missing. -/
structure Reader (ε α : Type) where
  /-- A text. -/
  string : String → α → Except ε String
  /-- A truth value. -/
  bool : String → α → Except ε Bool
  /-- A protocol. -/
  protocol : String → α → Except ε Protocol
  /-- The text is no number within bounds. -/
  badInteger : IntegerError → ε
  /-- Nothing is given under the name. -/
  missing : String → ε

namespace Reader

variable {ε α : Type} (r : Reader ε α)

/-- A number that is at most `limit`, read from its text. -/
def unsigned (limit : Nat) (name : String) (v : α) : Except ε Nat := do
  let s ← r.string name v
  (Decimal.readUnsigned limit s.toList).mapError r.badInteger

/-- A port number. -/
def port (name : String) (v : α) : Except ε UInt16 := (r.unsigned 65535 name v).map UInt16.ofNat

/-- A number of milliseconds. -/
def millis (name : String) (v : α) : Except ε UInt64 :=
  (r.unsigned 18446744073709551615 name v).map UInt64.ofNat

/-- The value of a field. -/
def field : (f : Field) → α → Except ε f.Value
  | .connectionTimeout => r.millis (Field.name .connectionTimeout)
  | .core => r.string (Field.name .core)
  | .host => r.string (Field.name .host)
  | .port => r.port (Field.name .port)
  | .protocol => r.protocol (Field.name .protocol)
  | .socketTimeout => r.millis (Field.name .socketTimeout)
  | .softCommit => r.bool (Field.name .softCommit)

/-- Settings whose fields are found under their names. -/
def settings (find : String → Option α) : Except ε Settings :=
  assemble r.missing fun f => readIf (r.field f) (find f.name)

end Reader

end SearchClient.Settings
