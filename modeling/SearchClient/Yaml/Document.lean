import SearchClient.Yaml.Tokens
import SearchClient.Yaml.Tree

/-!
# Documents

A text holds at most one document.  Lines with a percent sign may stand before it
and need a mark that starts it; a mark that ends it may follow.

## Main definitions

* `document?` — reads the document of a text.
* `entries?` — reads a text that holds a table.
-/

namespace SearchClient.Yaml

/-- Past the marks that end documents. -/
def skipEnds : List Token → List Token
  | .documentEnd :: ts => skipEnds ts
  | ts => ts

/-- Reads the lines before a document.  Of short names for families of kinds only one
on the last line counts, and the version may be given once. -/
def directives? (versioned : Bool) (families : List (String × String)) :
    List Token → Option (List (String × String) × List Token)
  | .version :: ts => if versioned then none else directives? true [] ts
  | .family handle meaning :: ts => directives? versioned [(handle, meaning)] ts
  | ts => some (families, ts)

/-- Whether a document has no value: what follows belongs to no document. -/
def endsDocument : List Token → Bool
  | [] => true
  | t :: _ => match t with
    | .version => true
    | .family _ _ => true
    | .documentStart => true
    | .documentEnd => true
    | _ => false

/-- Reads the value of a document and what follows it. -/
def root? (families : List (String × String)) (ts : List Token) : Option (Node × List Token) :=
  (node? (ts.length + 1) true false ⟨ts, ⟨[], [], families⟩⟩).map fun (v, r) => (v, r.rest)

/-- Reads the document of a text: `none` if the text is malformed, and no value if
it holds no document. -/
def document? (text : List Char) : Option (Option Node) := do
  let ts := skipEnds (← tokens? text)
  if ts.isEmpty then some none
  else
    let (families, inner) ← directives? false [] ts
    let (v, after) ← match inner with
      | .documentStart :: ts => if endsDocument ts then some (.null, ts) else root? families ts
      | _ => if inner.length = ts.length then root? [] ts else none
    if (skipEnds after).isEmpty then some (some v) else none

/-- The entries of the table that a text holds.  A text without a document holds
none. -/
def entries? (text : String) : Option Entries :=
  match document? text.toList with
  | some none => some []
  | some (some (.table es)) => some es
  | _ => none

end SearchClient.Yaml
