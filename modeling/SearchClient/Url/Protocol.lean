import SearchClient.Text.Names

/-!
# Protocols

The protocols under which a server is reached.  A protocol has a name in text and a tag in
data; the tag is its identifier in small letters.

## Main definitions

* `Protocol`, `Protocol.all` — the protocols.
* `Protocol.name`, `Protocol.scheme` — their texts.
* `Protocol.identifier`, `Protocol.tag` — their identifiers, and what they are called in data.
* `Protocol.ofText?` — read from text, in either case.
* `Protocol.ofTag?` — read from data, exactly.
-/

namespace SearchClient

/-- How a server is reached. -/
inductive Protocol
  /-- Web sockets. -/
  | ws
  /-- Plain HTTP. -/
  | http
  /-- HTTP over an encrypted connection. -/
  | https
  deriving DecidableEq, Repr, Inhabited

namespace Protocol

/-- All protocols. -/
def all : List Protocol := [.ws, .http, .https]

theorem mem_all (p : Protocol) : p ∈ all := by cases p <;> decide

/-- The name of a protocol. -/
def name : Protocol → String
  | .ws => "ws"
  | .http => "http"
  | .https => "https"

/-- The text with which a URL under the protocol starts. -/
def scheme (p : Protocol) : String := p.name ++ "://"

/-- The identifier of a protocol. -/
def identifier : Protocol → String
  | .ws => "Ws"
  | .http => "Http"
  | .https => "Https"

/-- What a protocol is called in data. -/
def tag (p : Protocol) : String := lowerAscii p.identifier

/-- The protocol with the given name, in capital or small letters. -/
def ofText? (text : String) : Option Protocol := all.find? fun p => p.name = lowerAscii text

/-- The protocol with exactly the given tag. -/
def ofTag? (text : String) : Option Protocol := all.find? fun p => p.tag = text

end Protocol

end SearchClient
