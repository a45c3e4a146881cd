import SearchClient.EnvFile.Definition
import SearchClient.Url.Basic

/-!
# The URL in a variable

## Main definitions

* `Url.fromVariables` — the URL that a variable holds, after a file of variables
  has been loaded.
-/

namespace SearchClient.Url

/-- The variable that holds the URL. -/
def urlVariable : String := "SOLR_URL"

/-- No variable of the name is defined. -/
structure MissingVariable where
  /-- The name. -/
  name : String
  deriving DecidableEq, Repr, Inhabited

/-- The error in words. -/
def MissingVariable.message (e : MissingVariable) : String := e.name ++ " must be set in env"

/-- The URL that a variable holds, after the variables of a file have been loaded. -/
def fromVariables (vs : Variables) (file : String) : Except MissingVariable Url :=
  match (EnvFile.load vs file).get? urlVariable with
  | some text => .ok ⟨text⟩
  | none => .error ⟨urlVariable⟩

end SearchClient.Url
