import SearchClient.Yaml.Cursor
import SearchClient.Yaml.Token

/-!
# The layout of a text

Lists and tables by indentation are levels, each at a column; a line that is
indented less closes them.  That a word is the name of an entry shows only at the
colon after it, so the last word that may be one is kept as a candidate, and the
tokens for the name and for the start of its table are put in before it later.

## Main definitions

* `Level`, `Candidate`, `Layout` — what is known at a place of a text.
* `Layout.closeTo`, `Layout.openBlock` — levels end and start.
* `Layout.saveCandidate`, `Layout.dropCandidate?` — candidates.
* `Layout.skip?` — on to the next word.
-/

namespace SearchClient.Yaml

/-- A level of indentation. -/
structure Level where
  /-- The column. -/
  column : Nat
  /-- Whether a list or a table stands at the column.  The other levels lie one
  column deeper than a list or a table and hold one of its parts. -/
  block : Bool
  deriving DecidableEq, Repr, Inhabited

/-- A word that may turn out to be the name of an entry. -/
structure Candidate where
  /-- Whether it cannot be anything else. -/
  required : Bool
  /-- The number of tokens before. -/
  before : Nat
  /-- Its line. -/
  line : Nat
  /-- Its column. -/
  column : Nat
  deriving DecidableEq, Repr, Inhabited

/-- What is known at a place of a text. -/
structure Layout where
  /-- The place. -/
  place : Cursor
  /-- The tokens before, the last one first. -/
  tokens : List Token
  /-- The levels of indentation, the innermost one first. -/
  levels : List Level
  /-- The candidate inside the innermost bracket. -/
  candidate : Option Candidate
  /-- The candidates outside it, one for each open bracket, the innermost first. -/
  outer : List (Option Candidate)
  /-- Whether the name of an entry may start here. -/
  keyAllowed : Bool
  /-- The line and the column where a colon needs no blank after it. -/
  adjacent : Nat × Nat
  /-- Whether an entry inside brackets belongs to a table in braces. -/
  inTable : Bool
  /-- Whether an entry inside brackets is a table of its own. -/
  single : Bool
  deriving DecidableEq, Repr, Inhabited

namespace Layout

/-- The layout at the start of a text. -/
def start (text : List Char) : Layout where
  place := .start text
  tokens := []
  levels := []
  candidate := none
  outer := []
  keyAllowed := true
  adjacent := (0, 0)
  inTable := false
  single := false

/-- Whether a bracket is open. -/
def inFlow (s : Layout) : Bool := !s.outer.isEmpty

/-- The column of the innermost level. -/
def level (s : Layout) : Nat := s.levels.head?.elim 0 Level.column

/-- The least column deeper than the innermost level. -/
def deeper (s : Layout) : Nat := s.levels.head?.elim 0 fun l => l.column + 1

/-- Whether a list or a table stands at the innermost level. -/
def inBlock (s : Layout) : Bool := s.levels.head?.any Level.block

/-! ### Tokens -/

/-- A further token. -/
def push (s : Layout) (t : Token) : Layout := { s with tokens := t :: s.tokens }

/-- A token put in after the first `n` ones. -/
def insert (s : Layout) (n : Nat) (t : Token) : Layout :=
  { s with tokens := s.tokens.insertIdx (s.tokens.length - n) t }

/-- On to another place. -/
def moveTo (s : Layout) (c : Cursor) : Layout := { s with place := c }

/-! ### Levels -/

/-- Closes levels while `p` holds for the innermost one. -/
def closeWhile (p : Level → Bool) (s : Layout) : List Level → Layout
  | [] => { s with levels := [] }
  | l :: ls =>
    if p l then closeWhile p (if l.block then s.push .blockEnd else s) ls
    else { s with levels := l :: ls }

/-- Closes the levels deeper than a column.  Brackets keep levels open. -/
def closeTo (column : Nat) (s : Layout) : Layout :=
  if s.inFlow then s else closeWhile (fun l => column < l.column) s s.levels

/-- Closes all levels. -/
def closeAll (s : Layout) : Layout :=
  if s.inFlow then s else closeWhile (fun _ => true) s s.levels

/-- Closes the levels at which no list or table stands. -/
def closeParts (s : Layout) : Layout :=
  { s with levels := s.levels.dropWhile fun l => !l.block }

/-- Opens a level at a column, unless a level stands there or deeper already, and
puts in the token for its start after the first `n` tokens.  It takes the place of a
level that holds a part. -/
def openBlock (column n : Nat) (t : Token) (s : Layout) : Layout :=
  if s.inFlow then s
  else
    let levels := match s.levels with
      | l :: ls => if l.column ≤ column ∧ ¬l.block then ls else l :: ls
      | [] => []
    if levels.head?.all (·.column < column) then
      { s with levels := ⟨column, true⟩ :: levels }.insert n t
    else { s with levels }

/-- Opens a level for a part of a list or a table. -/
def openPart (s : Layout) : Layout :=
  if s.inFlow ∨ ¬s.inBlock then s else { s with levels := ⟨s.level + 1, false⟩ :: s.levels }

/-! ### Candidates -/

/-- Makes the word that starts here the candidate, if one may start here.  At the
column of a list or a table nothing but a name can stand. -/
def saveCandidate (s : Layout) : Layout :=
  if s.keyAllowed then
    { s with candidate := some {
        required := !s.inFlow && s.inBlock && s.level == s.place.column
        before := s.tokens.length
        line := s.place.line
        column := s.place.column } }
  else s

/-- Gives the candidate up, unless it had to be a name. -/
def dropCandidate? (s : Layout) : Option Layout :=
  if s.candidate.any Candidate.required then none else some { s with candidate := none }

/-- Whether a candidate is given up at a place: outside brackets a name and its
colon stand on one line and not too far apart. -/
def Candidate.isStale (k : Candidate) (c : Cursor) : Bool :=
  k.line < c.line || k.column + 1024 < c.column

/-- Gives the candidate up if the place is too far from it. -/
def dropStale? (s : Layout) : Option Layout :=
  if !s.inFlow && s.candidate.any (Candidate.isStale · s.place) then s.dropCandidate? else some s

/-! ### Places -/

/-- The next word, and whether a line ended before it.  A tab before the column
`level` of a new line has to be followed by nothing. -/
def nextWord? (level : Nat) : Nat → Bool → Cursor → Option (Bool × Cursor)
  | 0, _, _ => none
  | fuel + 1, newLine, c =>
    match c.rest with
    | [] => some (newLine, c)
    | x :: _ =>
      if x = '\t' ∧ c.fresh ∧ c.column < level then
        c.passLine?.bind (nextWord? level fuel newLine)
      else if isBlank x then nextWord? level fuel newLine c.next
      else if x = '\n' then nextWord? level fuel true c.next
      else if x = '#' then nextWord? level fuel newLine c.lineEnd
      else some (newLine, c)

/-- On to the next word.  After the end of a line the name of an entry may start,
except inside brackets. -/
def skip? (s : Layout) : Option Layout :=
  (nextWord? s.level (s.place.rest.length + 1) false s.place).map fun (newLine, c) =>
    { s with place := c, keyAllowed := s.keyAllowed || (newLine && !s.inFlow) }

/-- Past the blanks and the comment here. -/
def skipGap? (s : Layout) : Option Layout := s.place.passGap?.map s.moveTo

end Layout

end SearchClient.Yaml
