import SearchClient.Yaml.Gap

/-!
# Scalars by indentation

After a vertical bar the indented lines that follow are a text as they stand;
after a greater-than sign their line ends are folded, except around lines that
start with a blank.  Marks on the first line decide what becomes of the line ends
after the last line, and how deep the lines are indented.

## Main definitions

* `Chomping`, `Header`, `header?` — the marks on the first line.
* `passBlankLines`, `contentLines` — the lines.
* `literal?` — reads a scalar by indentation.
-/

namespace SearchClient.Yaml

/-! ### The first line -/

/-- What becomes of the line ends after the last line. -/
inductive Chomping
  /-- None stays. -/
  | strip
  /-- One stays. -/
  | clip
  /-- All stay. -/
  | keep
  deriving DecidableEq, Repr, Inhabited

/-- The marks on the first line. -/
structure Header where
  /-- What becomes of the line ends after the last line. -/
  chomping : Chomping
  /-- How much deeper than the block the lines are indented, or zero if their
  indentation shows it. -/
  depth : Nat
  deriving DecidableEq, Repr, Inhabited

/-- The mark for the last line ends, if there is one, and the place after it. -/
def takeChomping (c : Cursor) : Option Chomping × Cursor :=
  match c.rest with
  | '+' :: _ => (some .keep, c.next)
  | '-' :: _ => (some .strip, c.next)
  | _ => (none, c)

/-- The digit for the indentation, if there is one, and the place after it.  A zero
is refused. -/
def takeDepth? (c : Cursor) : Option (Nat × Cursor) :=
  match c.rest with
  | [] => some (0, c)
  | x :: _ =>
    if x = '0' then none
    else if '1' ≤ x ∧ x ≤ '9' then some (x.toNat - 48, c.next)
    else some (0, c)

/-- The marks on the first line, in either order, and the place after them. -/
def header? (c : Cursor) : Option (Header × Cursor) := do
  let (early, c) := takeChomping c
  let (depth, c) ← takeDepth? c
  let (late, c) := if early.isNone then takeChomping c else (none, c)
  some (⟨(early.or late).getD .clip, depth⟩, c)

/-! ### The lines -/

/-- Passes blank lines and the indentation of the next line.  Indentation ends at the
column `width`, if there is one.  Together with the place come the number of lines
and the greatest column that was met. -/
def passBlankLines (width : Option Nat) : Nat → Nat → Nat → Cursor → Nat × Nat × Cursor
  | 0, count, widest, c => (count, widest, c)
  | fuel + 1, count, widest, c =>
    let spaces := (c.rest.takeWhile (· == ' ')).length
    let c := c.forward (width.elim spaces fun w => min spaces (w - c.column))
    match c.rest with
    | '\n' :: _ => passBlankLines width fuel (count + 1) (max widest c.column) c.next
    | _ => (count, max widest c.column, c)

/-- What line ends between two lines stand for: `passed` says whether a line stands
before, and whether it starts with a blank. -/
def joint (folded : Bool) (passed : Option Bool) (blank : Bool) (blankLines : Nat) : List Char :=
  let count := if passed.isSome then blankLines + 1 else blankLines
  if folded && passed == some false && !blank then foldLineEnds count
  else List.replicate count '\n'

/-- The lines of a scalar. -/
structure Lines where
  /-- Their text. -/
  text : List Char
  /-- Whether a line end follows the last one. -/
  ended : Bool
  /-- How many blank lines follow. -/
  blankLines : Nat
  /-- What follows them. -/
  after : Cursor
  deriving DecidableEq, Repr, Inhabited

/-- Reads the lines that are indented to the column `width`. -/
def contentLines (folded : Bool) (width : Nat) : Nat → Option Bool → Nat → Cursor → Lines
  | 0, passed, blankLines, c => ⟨[], passed.isSome, blankLines, c⟩
  | fuel + 1, passed, blankLines, c =>
    if c.rest.isEmpty || c.column != width || c.atEndMarker then
      ⟨[], passed.isSome, blankLines, c⟩
    else
      let line := c.rest.takeWhile (· != '\n')
      let blank := line.head?.any isBlank
      let line := joint folded passed blank blankLines ++ line
      let stop := c.lineEnd
      if stop.rest.isEmpty then ⟨line, false, 0, stop⟩
      else
        let (count, _, next) := passBlankLines (some width) c.rest.length 0 0 stop.next
        let more := contentLines folded width fuel (some blank) count next
        { more with text := line ++ more.text }

/-- The text of some lines with the line ends that stay.  At the end of the text a
last line that is indented like the block is ended by it. -/
def Lines.chomp (k : Chomping) (level : Nat) (l : Lines) : List Char :=
  let atEnd := l.after.rest.isEmpty && max level 1 ≤ l.after.column
  let last := (if l.ended then ['\n'] else []) ++ (if atEnd then ['\n'] else [])
  match k with
  | .strip => l.text
  | .clip => l.text ++ last
  | .keep => l.text ++ last ++ List.replicate l.blankLines '\n'

/-- What blank lines alone stand for. -/
def chompBlankLines : Chomping → Nat → List Char
  | .strip, _ => []
  | .clip, _ => ['\n']
  | .keep, n => List.replicate (max n 1) '\n'

/-- Reads a scalar by indentation, from after its first character.  The block around
it is indented to `level`, and what lies inside it at least to `deeper`. -/
def literal? (folded : Bool) (level deeper : Nat) (c : Cursor) : Option (List Char × Cursor) := do
  let (h, stop) ← header? c
  let first := (← stop.passLine?).next
  if first.rest.head? == some '\t' then none
  else
    let fixed := if h.depth = 0 then none else some (level + h.depth)
    let (blankLines, widest, start) := passBlankLines fixed (first.rest.length + 1) 0 0 first
    let width := fixed.getD (max widest deeper)
    if start.rest.isEmpty then
      some (if start.line = c.line then [] else chompBlankLines h.chomping blankLines, start)
    else if start.column < width ∧ deeper ≤ start.column then none
    else
      let lines := contentLines folded width (start.rest.length + 1) none blankLines start
      some (lines.chomp h.chomping level, lines.after)

end SearchClient.Yaml
