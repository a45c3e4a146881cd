import SearchClient.Yaml.Gap

/-!
# Plain scalars

A scalar without quotation marks runs to a colon that a blank follows, to a
comment or to the end of its lines; inside brackets it also ends at a bracket or
a comma.  On further lines, indented deeper than the block, it goes on.

## Main definitions

* `wordLength` — the length of a word of a plain scalar.
* `plain?` — reads a plain scalar.
-/

namespace SearchClient.Yaml

/-- Whether a colon before the given text ends a plain scalar. -/
def colonEnds (flow : Bool) (after : List Char) : Bool :=
  blankOrEnd after || (flow && atFlowMark after)

/-- The number of characters of a word of a plain scalar. -/
def wordLength (flow : Bool) : List Char → Nat
  | [] => 0
  | c :: cs =>
    if isBlank c ∨ c = '\n' ∨ (c = ':' ∧ colonEnds flow cs) ∨ (flow ∧ isFlowMark c) then 0
    else wordLength flow cs + 1

/-- The gap after a word, with what has been found of it already.  A tab before the
column `least` of a new line has to be followed by nothing. -/
def gap? (least : Nat) : Nat → Gap → Cursor → Option (Gap × Cursor)
  | 0, _, _ => none
  | fuel + 1, g, c =>
    match c.rest with
    | [] => some (g, c)
    | x :: _ =>
      if x = '\n' then gap? least fuel g.lineEnd c.next
      else if x = '\t' ∧ c.fresh ∧ c.column < least then c.passLine?.bind (gap? least fuel g)
      else if isBlank x then gap? least fuel (g.blank x) c.next
      else some (g, c)

/-- Whether a hyphen and then a bracket or a comma follow. -/
def atDashedMark : List Char → Bool
  | '-' :: cs => atFlowMark cs
  | _ => false

/-- Reads the words of a plain scalar that follow a gap; `least` is the least column
of further lines. -/
def words? (flow : Bool) (least : Nat) : Nat → Gap → Cursor → Option (List Char × Cursor)
  | 0, _, _ => none
  | fuel + 1, g, c =>
    let n := wordLength flow c.rest
    if c.atMarker || c.rest.head? == some '#' then some ([], c)
    else if flow && atDashedMark c.rest then none
    else if n = 0 then some ([], c)
    else do
      let word := g.text ++ c.rest.take n
      let (g, after) ← gap? least (c.rest.length + 1) .none (c.forward n)
      if g = .none ∨ (¬flow ∧ after.column < least) then some (word, after)
      else
        let (more, after) ← words? flow least fuel g after
        some (word ++ more, after)

/-- Reads a plain scalar and the gap after it. -/
def plain? (flow : Bool) (least : Nat) (c : Cursor) : Option (List Char × Cursor) :=
  if flow ∧ c.column < least then none else words? flow least (c.rest.length + 1) .none c

end SearchClient.Yaml
