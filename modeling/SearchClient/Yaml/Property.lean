import SearchClient.Yaml.Quoted
import SearchClient.Yaml.Token

/-!
# Names and kinds of values

Before a value may stand a name, by which it can be had again, and a tag that says
of which kind it is.  Lines before a document may give short names to families of
kinds.

## Main definitions

* `name?` — reads a name.
* `tag?` — reads a tag.
* `directive?` — reads a line before a document.
-/

namespace SearchClient.Yaml

/-! ### Names -/

/-- A letter, a digit, a hyphen or an underscore. -/
def isWordChar (c : Char) : Bool := c.isAlphanum || c == '-' || c == '_'

/-- A character of a name: no blank, line end, bracket, comma or byte order
mark. -/
def isNameChar (c : Char) : Bool :=
  !(isBlank c || c == '\n' || isFlowMark c || c.toNat == 0xfeff)

/-- Reads a name, which has to have a character. -/
def name? (c : Cursor) : Option (String × Cursor) :=
  let name := c.rest.takeWhile isNameChar
  if name.isEmpty then none else some (String.ofList name, c.forward name.length)

/-! ### Tags -/

/-- A character of a tag in angle brackets. -/
def isUriChar (c : Char) : Bool :=
  c.isAlphanum || c == '-' || "#;/?:@&=+$,_.!~*'()[]%".toList.contains c

/-- A character of a tag without angle brackets. -/
def isTagChar (c : Char) : Bool := isUriChar c && !isFlowMark c && c != '!'

/-- The byte with two digits in base sixteen. -/
def byte? (high low : Char) : Option Nat := ofBaseDigits? 16 0 [high, low]

/-- The character with two bytes, one above the other. -/
def pair? (lead trail : Nat) : Option Char :=
  if 0xc0 ≤ lead ∧ lead < 0xe0 ∧ 0x80 ≤ trail ∧ trail < 0xc0 then charOf? (lead * 256 + trail)
  else none

/-- Reads characters for which `p` holds, and how many places they take.  A percent
sign is followed by the two digits of a byte, and a byte above 127 by another one. -/
def uriText? (p : Char → Bool) : List Char → Option (List Char × Nat)
  | [] => some ([], 0)
  | c :: cs =>
    if c = '%' then
      match cs with
      | h :: l :: '%' :: h₂ :: l₂ :: cs => do
        let b ← byte? h l
        if b < 128 then
          let (text, n) ← uriText? p ('%' :: h₂ :: l₂ :: cs)
          some (Char.ofNat b :: text, n + 3)
        else
          let x ← pair? b (← byte? h₂ l₂)
          let (text, n) ← uriText? p cs
          some (x :: text, n + 6)
      | h :: l :: cs => do
        let b ← byte? h l
        let (text, n) ← uriText? p cs
        if b < 128 then some (Char.ofNat b :: text, n + 3) else none
      | _ => none
    else if p c then (uriText? p cs).map fun (text, n) => (c :: text, n + 1)
    else some ([], 0)

/-- Reads characters of a tag at a place. -/
def uri? (p : Char → Bool) (c : Cursor) : Option (String × Cursor) :=
  (uriText? p c.rest).map fun (text, n) => (String.ofList text, c.forward n)

/-- Reads a tag in angle brackets, from after the first one. -/
def verbatimTag? (c : Cursor) : Option (Tag × Cursor) := do
  let (kind, stop) ← uri? isUriChar c
  match stop.rest with
  | '>' :: _ => some (⟨"", kind⟩, stop.next)
  | _ => none

/-- Reads a tag with a short name or none, from after its exclamation mark. -/
def shortTag? (c : Cursor) : Option (Tag × Cursor) := do
  let word := c.rest.takeWhile isWordChar
  let stop := c.forward word.length
  match stop.rest with
  | '!' :: _ =>
    let (kind, after) ← uri? isTagChar stop.next
    if kind.isEmpty then none
    else some (⟨String.ofList ('!' :: word ++ ['!']), kind⟩, after)
  | _ =>
    let (kind, after) ← uri? isTagChar stop
    let kind := String.ofList word ++ kind
    some (if kind.isEmpty then ⟨"", "!"⟩ else ⟨"!", kind⟩, after)

/-- Reads a tag, which a blank or the end of the line follows, or inside brackets a
bracket or a comma. -/
def tag? (flow : Bool) (c : Cursor) : Option (Tag × Cursor) :=
  let read := match c.rest with
    | '!' :: '<' :: _ => verbatimTag? (c.forward 2)
    | _ => shortTag? c.next
  read.filter fun (_, stop) => blankOrEnd stop.rest || (flow && atFlowMark stop.rest)

/-! ### Lines before a document -/

/-- Reads a number of at most nine digits. -/
def versionNumber? (c : Cursor) : Option Cursor :=
  let count := (c.rest.takeWhile Char.isDigit).length
  if 1 ≤ count ∧ count ≤ 9 then some (c.forward count) else none

/-- Reads the version of the format: two numbers and a full stop between them. -/
def version? (c : Cursor) : Option (Token × Cursor) := do
  let stop ← versionNumber? (c.skipWhile isBlank)
  match stop.rest with
  | '.' :: _ => (versionNumber? stop.next).map fun after => (.version, after)
  | _ => none

/-- Reads the short name of a family of kinds: an exclamation mark, or a word
between two of them. -/
def handle? (c : Cursor) : Option (String × Cursor) :=
  match c.rest with
  | '!' :: cs =>
    let word := cs.takeWhile isWordChar
    let stop := c.forward (word.length + 1)
    match stop.rest with
    | '!' :: _ => some (String.ofList ('!' :: word ++ ['!']), stop.next)
    | _ => if word.isEmpty then some ("!", stop) else none
  | _ => none

/-- Reads what a short name stands for. -/
def meaning? (c : Cursor) : Option (String × Cursor) :=
  match c.rest with
  | '!' :: _ => (uri? isUriChar c.next).map fun (text, stop) => ("!" ++ text, stop)
  | x :: _ => if isTagChar x then uri? isUriChar c else none
  | [] => none

/-- Reads a short name and what it stands for. -/
def family? (c : Cursor) : Option (Token × Cursor) := do
  let (handle, stop) ← handle? (c.skipWhile isBlank)
  let (meaning, after) ← meaning? (stop.skipWhile isBlank)
  if blankOrEnd after.rest then some (.family handle meaning, after) else none

/-- Reads a line before a document, from its percent sign to the start of the next
line.  Lines of unknown kinds count as a short name for nothing. -/
def directive? (c : Cursor) : Option (Token × Cursor) := do
  let word := c.next.rest.takeWhile isWordChar
  let stop := c.next.forward word.length
  if word.isEmpty || !blankOrEnd stop.rest then none
  else
    let (token, after) ←
      if word = ['Y', 'A', 'M', 'L'] then version? stop
      else if word = ['T', 'A', 'G'] then family? stop
      else some (.family "" "", stop.lineEnd)
    (after.passLine?).map fun e => (token, e.next)

end SearchClient.Yaml
