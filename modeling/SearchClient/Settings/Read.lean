import SearchClient.Config.Layers
import SearchClient.Config.Variables
import SearchClient.EnvFile.Definition
import SearchClient.Settings.Convert
import SearchClient.Settings.Environment
import SearchClient.Yaml.Document

/-!
# Settings in layers

Settings are read from a base file, from a file for the environment, which may
be missing, and from variables; what comes later wins.

## Main definitions

* `Files`, `Files.layer` — the files of a directory and what they hold.
* `Settings.readFrom` — the settings for an environment.
* `Settings.read` — the settings for the environment that a variable names, after
  a file of variables has been loaded.
-/

namespace SearchClient

/-- The files of a directory: names and texts. -/
abbrev Files := List (String × String)

/-- The text of a file. -/
def Files.get? (name : String) : Files → Option String
  | [] => none
  | (n, text) :: fs => if n = name then some text else get? name fs

/-- The entries of a file. -/
def Files.layer (text : String) : Except ConfigError Entries :=
  match Yaml.entries? text with
  | some es => .ok es
  | none => .error .malformedFile

namespace Settings

/-- The name of the base file. -/
def baseFile : String := "base.yaml"

/-- The name of the file of an environment. -/
def environmentFile (e : Environment) : String := e.name ++ ".yaml"

/-- The settings for an environment. -/
def readFrom (files : Files) (e : Environment) (vs : Variables) : Except ConfigError Settings := do
  let base ← match files.get? baseFile with
    | some text => Files.layer text
    | none => .error .noBaseFile
  let own ← match files.get? (environmentFile e) with
    | some text => Files.layer text
    | none => .ok []
  ofEntries (Entries.ofLayers [base, own, vs.settings])

/-- The variable that names the environment. -/
def environmentVariable : String := "APP_ENVIRONMENT"

/-- The environment that a variable names; the own machine if there is none. -/
def environmentOf (vs : Variables) : Except ConfigError Environment :=
  match vs.get? environmentVariable with
  | none => .ok .localMachine
  | some text =>
    match Environment.ofText? text with
    | some e => .ok e
    | none => .error .badEnvironment

/-- The settings for the environment that a variable names, after the variables of a
file have been loaded. -/
def read (files : Files) (vs : Variables) (file : String) : Except ConfigError Settings := do
  let vs := EnvFile.load vs file
  let e ← environmentOf vs
  readFrom files e vs

end Settings

end SearchClient
