import SearchClient.Config.Variables
import SearchClient.EnvFile.Line
import SearchClient.Text.Alphanumeric
import SearchClient.Text.Trim

/-!
# Definitions of variables

A line defines a variable: a name, an equals sign and a value.  The word
`export` may come before the name.  Parts of the value may stand in quotation
marks; outside of single ones a backslash starts an escape, and a dollar sign
before a name stands for the value of another variable.

## Main definitions

* `Piece`, `Definition` — values and definitions as they are written.
* `value?`, `definition?` — read a value and a line.
* `Definition.value` — the value, given the variables so far.
-/

namespace SearchClient.EnvFile

/-- A piece of a value. -/
inductive Piece
  /-- A character. -/
  | char (c : Char)
  /-- The value of another variable. -/
  | variable (name : String)
  deriving DecidableEq, Repr, Inhabited

/-- A variable and the value that it is given. -/
structure Definition where
  /-- The name of the variable. -/
  name : String
  /-- The pieces of its value. -/
  pieces : List Piece
  deriving DecidableEq, Repr, Inhabited

/-! ### Values -/

/-- Where reading a value stands. -/
inductive ValueState
  /-- Outside of quotation marks. -/
  | bare
  /-- Inside single quotation marks. -/
  | strong
  /-- Inside double quotation marks. -/
  | weak
  /-- After a backslash; `quoted` says whether inside double quotation marks. -/
  | escape (quoted : Bool)
  /-- In a name after a dollar sign, its last character first. -/
  | name (quoted : Bool) (reversed : List Char)
  /-- In a name in braces. -/
  | braced (quoted : Bool) (reversed : List Char)
  /-- After the value. -/
  | after
  deriving DecidableEq, Repr, Inhabited

/-- Where reading stands outside of escapes and names. -/
def ValueState.text (quoted : Bool) : ValueState := if quoted then .weak else .bare

/-- A name that has been read. -/
def named (reversed : List Char) : Piece := .variable (String.ofList reversed.reverse)

/-- The character that an escape stands for. -/
def escaped? (c : Char) : Option Char :=
  if c = '\\' ∨ c = '\'' ∨ c = '"' ∨ c = '$' ∨ c = ' ' then some c
  else if c = 'n' then some '\n'
  else none

/-- Reads the pieces of a value.  It fails if a quotation mark or a brace stays
open, at an escape that does not exist, and if anything but a comment follows
the value.  The character that ends a name without braces belongs to the
value, even if it is a quotation mark. -/
def value? : ValueState → List Char → Option (List Piece)
  | .bare, [] => some []
  | .bare, c :: cs =>
    if c = '$' then value? (.name false []) cs
    else if c = '\'' then value? .strong cs
    else if c = '"' then value? .weak cs
    else if c = '\\' then value? (.escape false) cs
    else if c = ' ' ∨ c = '\t' then value? .after cs
    else (value? .bare cs).map (.char c :: ·)
  | .strong, [] => none
  | .strong, c :: cs =>
    if c = '\'' then value? .bare cs else (value? .strong cs).map (.char c :: ·)
  | .weak, [] => none
  | .weak, c :: cs =>
    if c = '$' then value? (.name true []) cs
    else if c = '"' then value? .bare cs
    else if c = '\\' then value? (.escape true) cs
    else (value? .weak cs).map (.char c :: ·)
  | .escape quoted, [] => if quoted then none else some []
  | .escape quoted, c :: cs =>
    match escaped? c with
    | some e => (value? (.text quoted) cs).map (.char e :: ·)
    | none => none
  | .name quoted n, [] => if quoted then none else some [named n]
  | .name quoted n, c :: cs =>
    if Text.isAlphanumeric c then value? (.name quoted (c :: n)) cs
    else if c = '\x7b' ∧ n.isEmpty then value? (.braced quoted []) cs
    else if c = '$' then (value? (.name quoted []) cs).map (named n :: ·)
    else (value? (.text quoted) cs).map fun ps => named n :: .char c :: ps
  | .braced _ _, [] => none
  | .braced quoted n, c :: cs =>
    if c = '\x7d' then (value? (.text quoted) cs).map (named n :: ·)
    else value? (.braced quoted (c :: n)) cs
  | .after, [] => some []
  | .after, c :: cs =>
    if c = ' ' ∨ c = '\t' then value? .after cs else if c = '#' then some [] else none

/-! ### Lines -/

/-- A text without the white space at its start. -/
def trimStart (cs : List Char) : List Char := cs.dropWhile isWhiteSpace

/-- Reads the name of a variable, which starts with a letter or an underscore, and
goes on after the white space that follows. -/
def name? (cs : List Char) : Option (String × List Char) :=
  let name := cs.takeWhile fun c => c.isAlphanum || c == '_' || c == '.'
  match name with
  | c :: _ =>
    if c.isAlpha || c == '_' then some (String.ofList name, trimStart (cs.drop name.length))
    else none
  | [] => none

/-- What follows an equals sign. -/
def afterEquals? : List Char → Option (List Char)
  | '=' :: cs => some cs
  | _ => none

/-- Reads the name of a variable and the equals sign, and the word `export` before
them, which can also be the name itself. -/
def nameAndEquals? (cs : List Char) : Option (String × List Char) := do
  let (name, rest) ← name? cs
  match afterEquals? rest with
  | some r => some (name, r)
  | none =>
    if name = "export" then
      let (name, rest) ← name? rest
      (afterEquals? rest).map fun r => (name, r)
    else none

/-- Reads a line: `none` if it is malformed, and no definition if it holds none. -/
def definition? (line : List Char) : Option (Option Definition) :=
  match trimStart (Text.dropEndWhile isWhiteSpace line) with
  | [] => some none
  | '#' :: _ => some none
  | cs => do
    let (name, rest) ← nameAndEquals? cs
    match trimStart rest with
    | [] => some (some ⟨name, []⟩)
    | '#' :: _ => some (some ⟨name, []⟩)
    | text => (value? .bare text).map fun pieces => some ⟨name, pieces⟩

/-! ### Loading -/

/-- The text of a piece; a variable that is not defined has none. -/
def Piece.text (vs : Variables) : Piece → String
  | .char c => String.ofList [c]
  | .variable name => (vs.get? name).getD ""

/-- The value that a definition gives. -/
def Definition.value (d : Definition) (vs : Variables) : String :=
  d.pieces.foldl (fun s p => s ++ p.text vs) ""

/-- The variables with those that some lines define.  What is defined already
stays, and nothing is read after a line that is malformed. -/
def loadLines (vs : Variables) : List (List Char) → Variables
  | [] => vs
  | l :: ls =>
    match definition? l with
    | none => vs
    | some none => loadLines vs ls
    | some (some d) => loadLines (vs.define d.name (d.value vs)) ls

/-- The variables with those that a file defines. -/
def load (vs : Variables) (text : String) : Variables := loadLines vs (logicalLines text)

end SearchClient.EnvFile
