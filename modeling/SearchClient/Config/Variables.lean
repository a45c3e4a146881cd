import SearchClient.Config.Node
import SearchClient.Text.Lowercase

/-!
# Environment variables

Texts under names.  Variables whose names start with `SOLR_` hold configuration
values: the rest of the name is the path of the value, with two underscores for
every full stop.

## Main definitions

* `Variables`, `Variables.get?`, `Variables.define` — variables.
* `Variables.settings` — the configuration values that they hold.
-/

namespace SearchClient

/-- The variables of a process; of two with the same name the first one counts. -/
abbrev Variables := List (String × String)

namespace Variables

/-- The text of a variable. -/
def get? (name : String) : Variables → Option String
  | [] => none
  | (k, v) :: vs => if k = name then some v else get? name vs

/-- The variables with one more, unless there is one of that name. -/
def define (vs : Variables) (name value : String) : Variables :=
  if (vs.get? name).isSome then vs else vs ++ [(name, value)]

/-- What the names of variables with settings start with. -/
def settingsLead : List Char := "solr_".toList

/-- A full stop for every two underscores. -/
def stopsForUnderscores : List Char → List Char
  | '_' :: '_' :: cs => '.' :: stopsForUnderscores cs
  | c :: cs => c :: stopsForUnderscores cs
  | [] => []

/-- The name of the setting that a variable holds. -/
def settingName? (name : String) : Option String :=
  let cs := (Text.lowercase name).toList
  if settingsLead.isPrefixOf cs then
    some (String.ofList (stopsForUnderscores (cs.drop settingsLead.length)))
  else none

/-- The configuration values that the variables hold. -/
def settings (vs : Variables) : Entries :=
  vs.filterMap fun (name, value) => (settingName? name).map fun n => (n, .text value)

end Variables

end SearchClient
