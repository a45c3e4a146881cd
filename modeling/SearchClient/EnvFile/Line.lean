/-!
# Lines of a file of variables

A line of a file of variables may run over several lines of text: it goes on as
long as a quotation mark is open or a backslash stands at its end.  A number
sign after a blank starts a comment, and so does one at the start of a line.

## Main definitions

* `isWhiteSpace` — white space of any kind.
* `LineState`, `LineState.next?` — what is open after a character.
* `logicalLines` — the lines of a file, comments left out.
-/

namespace SearchClient.EnvFile

/-- Whether a character is white space. -/
def isWhiteSpace (c : Char) : Bool :=
  let n := c.toNat
  (9 ≤ n && n ≤ 13) || n == 32 || n == 0x85 || n == 0xa0 || n == 0x1680 ||
    (0x2000 ≤ n && n ≤ 0x200a) || n == 0x2028 || n == 0x2029 || n == 0x202f || n == 0x205f ||
    n == 0x3000

/-- What is open at a place of a line. -/
inductive LineState
  /-- Nothing. -/
  | complete
  /-- Nothing, and a blank comes before. -/
  | blank
  /-- A backslash. -/
  | escape
  /-- A single quotation mark. -/
  | strong
  /-- A single quotation mark and a backslash. -/
  | strongEscape
  /-- A double quotation mark. -/
  | weak
  /-- A double quotation mark and a backslash. -/
  | weakEscape
  deriving DecidableEq, Repr, Inhabited

namespace LineState

/-- What a character opens outside of quotation marks. -/
def opened (c : Char) : LineState :=
  if c = '\\' then .escape
  else if c = '"' then .weak
  else if c = '\'' then .strong
  else .complete

/-- What is open after a character; `none` if a comment starts with it. -/
def next? (c : Char) : LineState → Option LineState
  | .blank => if c = '#' then none else some (opened c)
  | .complete =>
    some (if isWhiteSpace c ∧ c ≠ '\n' ∧ c ≠ '\r' then .blank else opened c)
  | .escape => some .complete
  | .weak => some (if c = '\\' then .weakEscape else if c = '"' then .complete else .weak)
  | .weakEscape => some .weak
  | .strong => some (if c = '\\' then .strongEscape else if c = '\'' then .complete else .strong)
  | .strongEscape => some .strong

end LineState

/-- What reading a line of text comes to. -/
inductive Scanned
  /-- The text before a comment. -/
  | comment (text : List Char)
  /-- No comment, and what is open at the end. -/
  | ended (state : LineState)
  deriving DecidableEq, Repr, Inhabited

/-- Reads a line of text. -/
def scan (s : LineState) : List Char → Scanned
  | [] => .ended s
  | c :: cs =>
    match s.next? c with
    | none => .comment []
    | some s =>
      match scan s cs with
      | .comment text => .comment (c :: text)
      | r => r

/-- The lines of a text, with their line feeds. -/
def textLines : List Char → List (List Char)
  | [] => []
  | c :: cs =>
    if c = '\n' then [c] :: textLines cs
    else match textLines cs with
      | [] => [[c]]
      | l :: ls => (c :: l) :: ls

/-- A line without the line end. -/
def dropLineEnd (l : List Char) : List Char :=
  match l.reverse with
  | '\n' :: '\r' :: r => r.reverse
  | '\n' :: r => r.reverse
  | _ => l

/-- The logical lines made of lines of text; `opened` holds the text of one that goes
on.  One that never ends is left out. -/
def joinLines (opened : List Char) (s : LineState) : List (List Char) → List (List Char)
  | [] => []
  | l :: ls =>
    if opened.isEmpty ∧ (l.dropWhile isWhiteSpace).head? = some '#' then joinLines [] .complete ls
    else match scan s l with
      | .comment text => (opened ++ text) :: joinLines [] .complete ls
      | .ended .complete => dropLineEnd (opened ++ l) :: joinLines [] .complete ls
      | .ended s => joinLines (opened ++ l) s ls

/-- The logical lines of a file, after a byte order mark. -/
def logicalLines (text : String) : List (List Char) :=
  let cs := text.toList
  joinLines [] .complete (textLines (if cs.head?.map Char.toNat = some 0xfeff then cs.tail else cs))

end SearchClient.EnvFile
