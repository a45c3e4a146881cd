import SearchClient.Config.KeyPath
import SearchClient.Text.Lowercase

/-!
# Layers

Configuration values come in layers, and later layers win value by value.  Names
do not distinguish capital from small letters.

## Main definitions

* `Node.lowerNames` — a value with all names in lower case.
* `Entries.overlay`, `Entries.ofLayers` — one layer over others, all layers.
-/

namespace SearchClient

mutual

/-- A value with all names in lower case. -/
def Node.lowerNames : Node → Node
  | .list vs => .list (Node.lowerNamesAll vs)
  | .table es => .table (Node.lowerNamesOf es)
  | v => v

/-- `lowerNames` for every element of a list. -/
def Node.lowerNamesAll : List Node → List Node
  | [] => []
  | v :: vs => v.lowerNames :: Node.lowerNamesAll vs

/-- `lowerNames` for the name and the value of every entry. -/
def Node.lowerNamesOf : List (String × Node) → List (String × Node)
  | [] => []
  | (k, v) :: es => (Text.lowercase k, v.lowerNames) :: Node.lowerNamesOf es

end

namespace Entries

/-- The entries with those of a further layer put over them. -/
def overlay (below layer : Entries) : Entries :=
  (Node.lowerNamesOf layer).foldl (fun es e => (KeyPath.ofName e.1).assign e.2 es) below

/-- The entries of some layers, the lowest layer first. -/
def ofLayers (layers : List Entries) : Entries := layers.foldl overlay []

end Entries

end SearchClient
