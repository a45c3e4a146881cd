import SearchClient.Config.Node
import SearchClient.Decimal.Shortest
import SearchClient.Decimal.Unsigned
import SearchClient.Text.Names
import SearchClient.Text.Quoted

/-!
# Why no settings were read

## Main definitions

* `Node.describe` — a configuration value in words.
* `ConfigError`, `ConfigError.message?` — why no settings were read.
-/

namespace SearchClient

/-- Why no settings were read. -/
inductive ConfigError
  /-- There is no base file. -/
  | noBaseFile
  /-- A file is malformed, or holds no table. -/
  | malformedFile
  /-- No environment has the name that the variable holds. -/
  | badEnvironment
  /-- A setting is not given. -/
  | missing (key : String)
  /-- A setting is a value of another kind. -/
  | wrongKind (found : Node) (expected key : String)
  /-- A setting is no number within bounds. -/
  | badInteger (cause : IntegerError)
  /-- No protocol has the name. -/
  | unknownProtocol (name : String)
  /-- A protocol is neither a text nor a table with one entry. -/
  | badProtocol
  deriving Repr, Inhabited

/-- The kind of a value, and the value if it is a single one. -/
def Node.describe : Node → String
  | .null => "unit value"
  | .bool b => "boolean `" ++ (if b then "true" else "false") ++ "`"
  | .int n => "integer `" ++ Decimal.text n ++ "`"
  | .float x => "floating point `" ++ String.ofList (Decimal.ofDouble x) ++ "`"
  | .text s => "string " ++ Text.quoted s
  | .list _ => "sequence"
  | .table _ => "map"

/-- The error in words; an error of a file has none. -/
def ConfigError.message? : ConfigError → Option String
  | .noBaseFile => none
  | .malformedFile => none
  | .badEnvironment => some ("Failed to parse APP_ENVIRONMENT: " ++ NameError.noMatch.message)
  | .missing key => some ("missing field `" ++ key ++ "`")
  | .wrongKind found expected key =>
    some ("invalid type: " ++ found.describe ++ ", expected " ++ expected ++
      " for key `" ++ key ++ "`")
  | .badInteger cause => some cause.message
  | .unknownProtocol name => some ("enum Protocol does not have variant constructor " ++ name)
  | .badProtocol =>
    some ("value of enum Protocol should be represented by either string or table " ++
      "with exactly one key")

end SearchClient
