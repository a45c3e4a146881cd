/-!
# Places in a text

How a text is laid out decides what it means, so reading keeps the line and the
column of every place.

## Main definitions

* `Cursor` — a place in a text.
* `Cursor.next`, `Cursor.forward`, `Cursor.skipWhile` — on to a later place.
* `Cursor.passGap?`, `Cursor.passLine?` — past the blanks and the comment that end
  a line.
* `Cursor.atStartMarker`, `Cursor.atEndMarker` — the marks between documents.
-/

namespace SearchClient.Yaml

/-! ### Characters -/

/-- A space or a tab. -/
def isBlank (c : Char) : Bool := c == ' ' || c == '\t'

/-- A bracket or a comma, which has a meaning of its own inside brackets. -/
def isFlowMark (c : Char) : Bool :=
  c == ',' || c == '[' || c == ']' || c == '\x7b' || c == '\x7d'

/-- The line ends here, or the text does. -/
def atLineEnd : List Char → Bool
  | [] => true
  | c :: _ => c == '\n'

/-- The text ends here, or the line does, or a blank follows. -/
def blankOrEnd : List Char → Bool
  | [] => true
  | c :: _ => isBlank c || c == '\n'

/-- A bracket or a comma follows. -/
def atFlowMark (cs : List Char) : Bool := cs.head?.any isFlowMark

/-- Line ends of every kind as single line feeds. -/
def unifyLineEnds : List Char → List Char
  | [] => []
  | '\r' :: '\n' :: cs => '\n' :: unifyLineEnds cs
  | c :: cs => (if c = '\r' then '\n' else c) :: unifyLineEnds cs

/-- Three full stops that nothing follows on their word: a document ends. -/
def endMarker : List Char → Bool
  | '.' :: '.' :: '.' :: cs => blankOrEnd cs
  | _ => false

/-- Three hyphens that nothing follows on their word: a document starts. -/
def startMarker : List Char → Bool
  | '-' :: '-' :: '-' :: cs => blankOrEnd cs
  | _ => false

/-! ### Places -/

/-- A place in a text. -/
structure Cursor where
  /-- The number of line ends before. -/
  line : Nat
  /-- The number of characters before on the line. -/
  column : Nat
  /-- Whether nothing but blanks stands before on the line. -/
  fresh : Bool
  /-- What follows. -/
  rest : List Char
  deriving DecidableEq, Repr, Inhabited

namespace Cursor

/-- The start of a text.  The character with the number zero ends a text. -/
def start (text : List Char) : Cursor :=
  ⟨0, 0, true, unifyLineEnds (text.takeWhile fun c => c.toNat != 0)⟩

/-- The place after the next character. -/
def next (c : Cursor) : Cursor :=
  match c.rest with
  | [] => c
  | x :: cs =>
    if x = '\n' then ⟨c.line + 1, 0, true, cs⟩ else ⟨c.line, c.column + 1, c.fresh && isBlank x, cs⟩

/-- The place after `n` more characters. -/
def forward (c : Cursor) : Nat → Cursor
  | 0 => c
  | n + 1 => c.next.forward n

/-- The next place with a character for which `p` does not hold. -/
def skipWhile (p : Char → Bool) (c : Cursor) : Cursor := c.forward (c.rest.takeWhile p).length

/-- The blanks that follow. -/
def blanks (c : Cursor) : List Char := c.rest.takeWhile isBlank

/-- The end of the line. -/
def lineEnd (c : Cursor) : Cursor := c.skipWhile (· != '\n')

/-- The place after the blanks here and after a comment.  A comment without a blank
before it is refused. -/
def passGap? (c : Cursor) : Option Cursor :=
  let after := c.forward c.blanks.length
  match after.rest with
  | '#' :: _ => if c.blanks.isEmpty then none else some after.lineEnd
  | _ => some after

/-- The end of the line, if nothing but blanks and a comment stands before it. -/
def passLine? (c : Cursor) : Option Cursor := c.passGap?.filter fun e => atLineEnd e.rest

/-- Whether the mark that starts a document stands here. -/
def atStartMarker (c : Cursor) : Bool := c.column == 0 && startMarker c.rest

/-- Whether the mark that ends a document stands here. -/
def atEndMarker (c : Cursor) : Bool := c.column == 0 && endMarker c.rest

/-- Whether either mark between documents stands here. -/
def atMarker (c : Cursor) : Bool := c.atStartMarker || c.atEndMarker

end Cursor

end SearchClient.Yaml
