import SearchClient.Url.Protocol

/-!
# Environments

A client runs on somebody's own machine or in production, and each of the two
may have settings of its own.

## Main definitions

* `Environment` — where a client runs.
* `Environment.ofText?` — read in either case.
-/

namespace SearchClient

/-- Where a client runs. -/
inductive Environment
  /-- On somebody's own machine. -/
  | localMachine
  /-- In production. -/
  | production
  deriving DecidableEq, Repr, Inhabited

namespace Environment

/-- All environments. -/
def all : List Environment := [.localMachine, .production]

/-- The name of an environment. -/
def name : Environment → String
  | .localMachine => "local"
  | .production => "production"

/-- The environment with the given name, in capital or small letters. -/
def ofText? (text : String) : Option Environment :=
  all.find? fun e => e.name = lowerAscii text

end Environment

end SearchClient
