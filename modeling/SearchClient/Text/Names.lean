/-!
# Names that are not known

Some texts have to be one of a few names.  What is said about a text that is
none of them depends on how it was read.

## Main definitions

* `lowerAscii` — a text with the letters A to Z in lower case.
* `NameError`, `NameError.message` — why a text is no name.
-/

namespace SearchClient

/-- A text with the letters A to Z in lower case and all else unchanged. -/
def lowerAscii (s : String) : String := String.ofList (s.toList.map Char.toLower)

/-- Why a text is no name. -/
inductive NameError
  /-- No name matches the text. -/
  | noMatch
  /-- The text is none of the names that were expected. -/
  | unlisted (text : String) (expected : List String)
  deriving DecidableEq, Repr, Inhabited

/-- Names in backquotes, with commas between them. -/
def listed : List String → String
  | [] => ""
  | [n] => "`" ++ n ++ "`"
  | n :: m :: ns => "`" ++ n ++ "`, " ++ listed (m :: ns)

/-- The error in words. -/
def NameError.message : NameError → String
  | .noMatch => "Matching variant not found"
  | .unlisted text expected =>
    "unknown variant `" ++ text ++ "`, expected one of " ++ listed expected

end SearchClient
