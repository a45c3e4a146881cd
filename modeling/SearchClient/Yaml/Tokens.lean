import SearchClient.Yaml.Layout
import SearchClient.Yaml.Literal
import SearchClient.Yaml.Plain
import SearchClient.Yaml.Property

/-!
# The tokens of a text

The first characters of a word decide what it is.  Each kind of word has a
function that takes the layout before it to the layout after it.

## Main definitions

* `Layout.openFlow?`, `Layout.closeFlow?`, `Layout.comma?` — brackets.
* `Layout.item?`, `Layout.key?`, `Layout.value?` — parts of lists and tables.
* `Layout.plain?`, `Layout.quoted?`, `Layout.literal?` — scalars.
* `Layout.word?` — the next word, whatever it is.
* `tokens?` — the tokens of a text.
-/

namespace SearchClient.Yaml

namespace Layout

/-! ### Brackets -/

/-- A list or a table in brackets starts. -/
def openFlow? (t : Token) (s : Layout) : Option Layout := do
  let s := s.saveCandidate.openPart
  if 255 ≤ s.outer.length then none
  else
    let s := { s with
      candidate := none
      outer := s.candidate :: s.outer
      keyAllowed := true
      inTable := s.inTable || t == Token.braceOpen }
    let s ← (s.moveTo s.place.next).skipGap?
    some (s.push t)

/-- An entry that is a table of its own ends. -/
def closeSingle (s : Layout) : Layout :=
  if s.single then { s with single := false, inTable := false }.push .braceClose else s

/-- A list or a table in brackets ends. -/
def closeFlow? (t : Token) (s : Layout) : Option Layout := do
  let s ← s.dropCandidate?
  let s := match s.outer with
    | k :: ks => { s with candidate := k, outer := ks, keyAllowed := false }
    | [] => { s with keyAllowed := false }
  let s := if t == Token.bracketClose then s.closeSingle else s
  let s ← (s.moveTo s.place.next).skipGap?
  let s := if s.inFlow then { s with adjacent := (s.place.line, s.place.column) } else s
  some (s.push t)

/-- Something follows inside brackets. -/
def comma? (s : Layout) : Option Layout := do
  let s ← s.dropCandidate?
  let s := { s with keyAllowed := true }.closeSingle
  let s ← (s.moveTo s.place.next).skipGap?
  some (s.push .comma)

/-! ### Parts of lists and tables -/

/-- Whether a hyphen stands here that an element of a list follows. -/
def atItem : List Char → Bool
  | '-' :: cs => blankOrEnd cs
  | _ => false

/-- An element of a list by indentation follows. -/
def item? (s : Layout) : Option Layout := do
  if s.inFlow ∨ ¬s.keyAllowed then none
  else
    let hyphen := s.place.next
    let s := s.openBlock s.place.column s.tokens.length .listStart
    let s ← (s.moveTo hyphen).skipGap?
    if hyphen.blanks.contains '\t' ∧ atItem s.place.rest then none
    else
      let s := if s.place.rest.head?.any fun c => c == '\n' || isFlowMark c then s.openPart else s
      let s ← s.dropCandidate?
      some ({ s with keyAllowed := true }.push .item)

/-- The place after the spaces, line ends and comments after a question mark; `spaced`
says whether a space or a line end has been met. -/
def passKeyGap? : Nat → Bool → Cursor → Option Cursor
  | 0, _, _ => none
  | fuel + 1, spaced, c =>
    match c.rest with
    | ' ' :: _ => passKeyGap? fuel true c.next
    | '\n' :: _ => passKeyGap? fuel true c.next
    | '#' :: _ => passKeyGap? fuel spaced c.lineEnd
    | '\t' :: _ => none
    | _ => if spaced then some c else none

/-- A question mark: the name of an entry follows. -/
def key? (s : Layout) : Option Layout := do
  if ¬s.inFlow ∧ ¬s.keyAllowed then none
  else
    let s := s.openBlock s.place.column s.tokens.length .tableStart
    let s ← { s with inTable := s.inTable || s.inFlow }.dropCandidate?
    let c ← passKeyGap? (s.place.rest.length + 1) false s.place.next
    some ({ s with place := c, keyAllowed := !s.inFlow }.push .key)

/-- The place after a colon.  A tab there has to be followed by a space, unless no
word of letters, digits, hyphens or underscores follows. -/
def passColon? (c : Cursor) : Option Cursor :=
  match c.rest with
  | '\t' :: _ => c.passGap?.filter fun after =>
    c.blanks.contains ' ' || !after.rest.head?.any isWordChar
  | _ => some c

/-- A colon: the value of an entry follows.  The candidate is its name; without a
candidate the name has been marked before or is missing. -/
def value? (s : Layout) : Option Layout := do
  let colon := s.place
  let single := s.inFlow && !s.inTable
  let s := { s with single, place := ← passColon? colon.next }
  match s.candidate with
  | some k =>
    if single ∧ k.line < colon.line then none
    else
      let s := s.insert k.before .key
      let s := if single then s.insert k.before .braceOpen else s
      let s := (s.openBlock k.column k.before .tableStart).openPart
      some ({ s with candidate := none, keyAllowed := false }.push .value)
  | none =>
    let s := if single then s.push .braceOpen else s
    if ¬s.inFlow ∧ ¬s.keyAllowed then none
    else
      let s := (s.openBlock colon.column s.tokens.length .tableStart).openPart
      some ({ s with keyAllowed := !s.inFlow }.push .value)

/-! ### Marks of documents -/

/-- A mark between documents, which closes all levels. -/
def marker? (t : Token) (s : Layout) : Option Layout := do
  let s ← s.closeAll.dropCandidate?
  some ({ s with keyAllowed := false, place := s.place.forward 3 }.push t)

/-- A line before a document. -/
def directive? (s : Layout) : Option Layout := do
  let s ← s.closeAll.dropCandidate?
  let (t, c) ← Yaml.directive? s.place
  some ({ s with keyAllowed := false, place := c }.push t)

/-- The text ends, and with it all levels. -/
def finish? (s : Layout) : Option Layout := do
  if s.outer.any (·.any Candidate.required) then none
  else s.closeAll.dropCandidate?

/-! ### Names, kinds and scalars -/

/-- A word that may be the name of an entry, or may stand before one. -/
def leaf? (read? : Layout → Option (Token × Cursor)) (s : Layout) : Option Layout := do
  let s := { s.saveCandidate with keyAllowed := false }
  let (t, c) ← read? s
  some ((s.moveTo c).push t)

/-- A name for a value. -/
def anchor? : Layout → Option Layout :=
  leaf? fun s => (name? s.place.next).map fun (n, c) => (.anchor n, c)

/-- The value with a name. -/
def alias? : Layout → Option Layout :=
  leaf? fun s => (name? s.place.next).map fun (n, c) => (.alias n, c)

/-- The kind of a value. -/
def tag? : Layout → Option Layout :=
  leaf? fun s => (Yaml.tag? s.inFlow s.place).map fun (t, c) => (.tag t, c)

/-- A plain scalar.  If its gap ends on a new line, the name of an entry may start
there. -/
def plain? (s : Layout) : Option Layout := do
  let s := s.saveCandidate.closeParts
  let (text, c) ← Yaml.plain? s.inFlow s.deeper s.place
  some ({ s with place := c, keyAllowed := c.fresh }.push (.plain (String.ofList text)))

/-- Whether a quoted scalar that starts on a line may end here: nothing follows on
its line but a comment, a colon, or inside brackets a bracket that closes or a
comma. -/
def endsQuoted (flow : Bool) (line : Nat) (c : Cursor) : Bool :=
  match c.rest with
  | [] => true
  | x :: _ =>
    x == '\n' || (x == ':' && (flow || line == c.line)) ||
      (flow && (x == ',' || x == ']' || x == '\x7d'))

/-- A quoted scalar.  Inside brackets the colon after it needs no blank. -/
def quoted? (s : Layout) : Option Layout := do
  let s := { s.saveCandidate with keyAllowed := false }
  let c := s.place
  let read := if c.rest.head? == some '\'' then singleQuoted? else doubleQuoted?
  let (text, stop) ← read s.level c.line (c.column + 1) .none c.rest.tail
  let after ← stop.passGap?
  if endsQuoted s.inFlow c.line after then do
    let s ← (s.moveTo after).skip?
    let s := { s with adjacent := (s.place.line, s.place.column) }
    some (s.push (.text (String.ofList text)))
  else none

/-- A scalar by indentation. -/
def literal? (folded : Bool) (s : Layout) : Option Layout := do
  let s := s.saveCandidate.closeParts
  let (text, c) ← Yaml.literal? folded s.level s.deeper s.place.next
  some ({ s with place := c, keyAllowed := true }.push (.text (String.ofList text)))

/-! ### Words -/

/-- Whether a colon separates the name of an entry from its value. -/
def colonSeparates (s : Layout) (after : List Char) : Bool :=
  blankOrEnd after ||
    (s.inFlow && (atFlowMark after || s.adjacent == (s.place.line, s.place.column)))

/-- The word that starts here. -/
def word? (s : Layout) : Option Layout :=
  match s.place.rest with
  | [] => some s
  | c :: cs =>
    if s.place.column = 0 ∧ c = '%' then s.directive?
    else if s.place.atStartMarker then s.marker? .documentStart
    else if s.place.atEndMarker then do
      let s ← s.marker? .documentEnd
      let c ← s.place.passLine?
      some (s.moveTo c)
    else if s.place.column < s.level then none
    else if c = '[' then s.openFlow? .bracketOpen
    else if c = '\x7b' then s.openFlow? .braceOpen
    else if c = ']' then s.closeFlow? .bracketClose
    else if c = '\x7d' then s.closeFlow? .braceClose
    else if c = ',' then s.comma?
    else if c = '-' ∧ blankOrEnd cs then s.item?
    else if c = '?' ∧ blankOrEnd cs then s.key?
    else if c = ':' ∧ s.colonSeparates cs then s.value?
    else if c = '*' then s.alias?
    else if c = '&' then s.anchor?
    else if c = '!' then s.tag?
    else if c = '|' ∧ ¬s.inFlow then s.literal? false
    else if c = '>' ∧ ¬s.inFlow then s.literal? true
    else if c = '\'' ∨ c = '"' then s.quoted?
    else if c = '%' ∨ c = '@' ∨ c.toNat = 96 then none
    else s.plain?

/-- All words that follow. -/
def finishWords? : Nat → Layout → Option Layout
  | 0, _ => none
  | fuel + 1, s => do
    let s ← s.skip?
    let s ← s.dropStale?
    let s := s.closeTo s.place.column
    if s.place.rest.isEmpty then s.finish? else (← s.word?).finishWords? fuel

end Layout

/-- The tokens of a text. -/
def tokens? (text : List Char) : Option (List Token) :=
  let start := Layout.start text
  (start.finishWords? (start.place.rest.length + 1)).map fun s => s.tokens.reverse

end SearchClient.Yaml
