import SearchClient.Decimal.Numeral
import SearchClient.Query.Render
import SearchClient.Text.Trim
import SearchClient.Url.Percent
import SearchClient.Url.Protocol

/-!
# URLs

The URL of a server, a collection on it or any path below.  A URL is a text that
is only ever extended; nothing is checked and nothing but the text of a query is
encoded.

## Main definitions

* `Url`, `Url.appendPath`, `Url.addFilter` — URLs and their extensions.
* `Url.Builder` — a URL put together piece by piece.
-/

namespace SearchClient

/-- A URL. -/
structure Url where
  /-- The text of the URL. -/
  text : String
  deriving DecidableEq, Repr, Inhabited

/-- A text without the slashes at its start. -/
def dropLeadingSlashes (s : String) : List Char := s.toList.dropWhile (· == '/')

/-- A text without the slashes at its end. -/
def dropTrailingSlashes (s : String) : List Char := Text.dropEndWhile (· == '/') s.toList

namespace Url

/-- The URL with a path below it: one slash stands between the two, whatever
slashes stood there. -/
def appendPath (u : Url) (path : String) : Url :=
  ⟨String.ofList (dropTrailingSlashes u.text ++ '/' :: dropLeadingSlashes path)⟩

/-- The text between a URL and a further parameter: a question mark before the
first parameter. -/
def separator (u : Url) : String := if u.text.toList.contains '?' then "&" else "?"

/-- The URL with a query as a further parameter. -/
def addFilter (u : Url) (q : Query) : Url :=
  ⟨u.text ++ u.separator ++ "fq=" ++ Percent.encode q.render⟩

/-! ### Building URLs -/

/-- A URL under construction: its pieces, in order. -/
structure Builder where
  /-- The pieces so far. -/
  pieces : List String
  deriving DecidableEq, Repr, Inhabited

namespace Builder

/-- No piece yet. -/
def empty : Builder := ⟨[]⟩

/-- A further piece. -/
def push (b : Builder) (piece : String) : Builder := ⟨b.pieces ++ [piece]⟩

/-- The scheme of a protocol. -/
def protocol (b : Builder) (p : Protocol) : Builder := b.push p.scheme

/-- A host, taken verbatim. -/
def host (b : Builder) (name : String) : Builder := b.push name

/-- A port. -/
def port (b : Builder) (number : UInt16) : Builder :=
  b.push (":" ++ Decimal.text number.toNat)

/-- A text without `lead`, if it starts with that. -/
def dropLead (lead text : List Char) : List Char :=
  if lead.isPrefixOf text then text.drop lead.length else text

/-- A text without the schemes at its start.  Each scheme is looked for once, in
the order of `Protocol.all`. -/
def dropSchemes (text : String) : String :=
  String.ofList (Protocol.all.foldl (fun t p => dropLead p.scheme.toList t) text.toList)

/-- A host with an optional port, without any scheme. -/
def baseUrl (b : Builder) (text : String) : Builder := b.push (dropSchemes text)

/-- A path; a slash comes before it unless it starts with one. -/
def path (b : Builder) (text : String) : Builder :=
  if text.toList.head? = some '/' then b.push text else (b.push "/").push text

/-- The pieces, one after the other. -/
def concatenated : List String → String
  | [] => ""
  | p :: ps => p ++ concatenated ps

/-- The URL that the pieces make. -/
def build (b : Builder) : Url := ⟨concatenated b.pieces⟩

end Builder

end Url

end SearchClient
