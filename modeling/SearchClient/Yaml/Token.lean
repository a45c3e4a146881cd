/-!
# Tokens

The words of a text in the order in which they are read.  Lists and tables by
indentation have tokens for their start and their end although no character
stands for them.

## Main definitions

* `Token` — a word of a text.
* `Tag` — what says of which kind a value is.
-/

namespace SearchClient.Yaml

/-- What says of which kind a value is. -/
structure Tag where
  /-- The short name of the family of kinds, or nothing. -/
  handle : String
  /-- The kind. -/
  kind : String
  deriving DecidableEq, Repr, Inhabited

/-- A word of a text. -/
inductive Token
  /-- A scalar whose look decides what it is. -/
  | plain (text : String)
  /-- A scalar that is a text whatever it looks like. -/
  | text (text : String)
  /-- A name for the value that follows. -/
  | anchor (name : String)
  /-- The value with a name. -/
  | alias (name : String)
  /-- The kind of the value that follows. -/
  | tag (tag : Tag)
  /-- A short name for a family of kinds. -/
  | family (handle meaning : String)
  /-- The version of the format. -/
  | version
  /-- A document starts. -/
  | documentStart
  /-- A document ends. -/
  | documentEnd
  /-- A list by indentation starts. -/
  | listStart
  /-- A table by indentation starts. -/
  | tableStart
  /-- A list or a table by indentation ends. -/
  | blockEnd
  /-- A list in brackets starts. -/
  | bracketOpen
  /-- A list in brackets ends. -/
  | bracketClose
  /-- A table in brackets starts. -/
  | braceOpen
  /-- A table in brackets ends. -/
  | braceClose
  /-- Something follows inside brackets. -/
  | comma
  /-- An element of a list by indentation follows. -/
  | item
  /-- The name of an entry follows. -/
  | key
  /-- The value of an entry follows. -/
  | value
  deriving DecidableEq, Repr, Inhabited

end SearchClient.Yaml
