import SearchClient.Url.Basic

/-!
# Settings

How a client reaches its server: protocol, host, port and collection, the time
it waits, and whether its changes are committed softly.

## Main definitions

* `Settings` — the settings of a client.
* `Settings.url` — the URL of the collection.
* `Settings.defaultProtocol`, … — what holds for a setting that is not given.
-/

namespace SearchClient

/-- The settings of a client. -/
structure Settings where
  /-- The protocol. -/
  protocol : Protocol
  /-- The host of the server. -/
  host : String
  /-- The port of the server. -/
  port : UInt16
  /-- The path of the collection. -/
  core : String
  /-- How many milliseconds to wait for a connection. -/
  connectionTimeout : UInt64
  /-- How many milliseconds to wait for data. -/
  socketTimeout : UInt64
  /-- Whether changes become visible before they are stored for good. -/
  softCommit : Bool
  deriving DecidableEq, Repr, Inhabited

namespace Settings

/-- The protocol unless another one is given. -/
def defaultProtocol : Protocol := .http

/-- The milliseconds to wait for a connection unless another number is given. -/
def defaultConnectionTimeout : UInt64 := 1000

/-- The milliseconds to wait for data unless another number is given. -/
def defaultSocketTimeout : UInt64 := 30000

/-- Whether commits are soft unless it is said. -/
def defaultSoftCommit : Bool := true

/-- The URL of the collection. -/
def url (s : Settings) : Url :=
  ((((Url.Builder.empty.protocol s.protocol).host s.host).port s.port).path s.core).build

end Settings

end SearchClient
