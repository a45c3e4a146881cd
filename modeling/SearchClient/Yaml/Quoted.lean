import SearchClient.Yaml.Gap

/-!
# Quoted scalars

Between single quotation marks only a quotation mark is special, and written
twice.  Between double ones a backslash starts an escape, and a backslash before
a line end takes the line end away.  Further lines must not be indented less
than the block, and no mark between documents may stand on them.

## Main definitions

* `escaped?`, `numbered?` — the characters that escapes stand for.
* `singleQuoted?`, `doubleQuoted?` — read a quoted scalar.
-/

namespace SearchClient.Yaml

/-! ### Escapes -/

/-- The value of a digit in a base of at most sixteen. -/
def baseDigit? (base : Nat) (c : Char) : Option Nat :=
  let n := c.toLower.toNat
  let value :=
    if 48 ≤ n ∧ n ≤ 57 then some (n - 48) else if 97 ≤ n ∧ n ≤ 102 then some (n - 87) else none
  value.filter (· < base)

/-- The value of some digits that follow those of `acc`. -/
def ofBaseDigits? (base acc : Nat) : List Char → Option Nat
  | [] => some acc
  | c :: cs => (baseDigit? base c).bind fun d => ofBaseDigits? base (base * acc + d) cs

/-- The character that an escape of one letter stands for. -/
def escaped? (c : Char) : Option Char :=
  if c = '0' then some (Char.ofNat 0)
  else if c = 'a' then some (Char.ofNat 7)
  else if c = 'b' then some (Char.ofNat 8)
  else if c = 't' ∨ c = '\t' then some '\t'
  else if c = 'n' then some '\n'
  else if c = 'v' then some (Char.ofNat 11)
  else if c = 'f' then some (Char.ofNat 12)
  else if c = 'r' then some '\r'
  else if c = 'e' then some (Char.ofNat 27)
  else if c = ' ' ∨ c = '"' ∨ c = '/' ∨ c = '\\' then some c
  else if c = 'N' then some (Char.ofNat 0x85)
  else if c = '_' then some (Char.ofNat 0xa0)
  else if c = 'L' then some (Char.ofNat 0x2028)
  else if c = 'P' then some (Char.ofNat 0x2029)
  else none

/-- The character with a number. -/
def charOf? (n : Nat) : Option Char := if n.isValidChar then some (Char.ofNat n) else none

/-- The character with the given number in base sixteen. -/
def numbered? (digits : List Char) : Option Char := (ofBaseDigits? 16 0 digits).bind charOf?

/-! ### Reading -/

/-- Whether a scalar of a block that is indented to `level` must not go on here. -/
def misplaced (level column : Nat) (cs : List Char) : Bool :=
  column < level || (column == 0 && (startMarker cs || endMarker cs))

/-- A text before the result of reading on. -/
def before (cs : List Char) (r : Option (List Char × Cursor)) : Option (List Char × Cursor) :=
  r.map fun (text, c) => (cs ++ text, c)

/-- Whether a blank must not stand here: a tab may not indent a new line. -/
def badIndent (level column : Nat) (g : Gap) (c : Char) : Bool :=
  c == '\t' && g.newLine && column < level

/-- Reads a scalar in single quotation marks, from after the first one. -/
def singleQuoted? (level line column : Nat) (g : Gap) : List Char → Option (List Char × Cursor)
  | [] => none
  | c :: cs =>
    if c = '\n' then singleQuoted? level (line + 1) 0 g.lineEnd cs
    else if isBlank c then
      if badIndent level column g c then none
      else singleQuoted? level line (column + 1) (g.blank c) cs
    else if misplaced level column (c :: cs) then none
    else if c = '\'' then
      match cs with
      | '\'' :: cs => before (g.text ++ ['\'']) (singleQuoted? level line (column + 2) .none cs)
      | _ => some (g.text, ⟨line, column + 1, false, cs⟩)
    else before (g.text ++ [c]) (singleQuoted? level line (column + 1) .none cs)

/-- Reads a scalar in double quotation marks, from after the first one. -/
def doubleQuoted? (level line column : Nat) (g : Gap) : List Char → Option (List Char × Cursor)
  | [] => none
  | c :: cs =>
    if c = '\n' then doubleQuoted? level (line + 1) 0 g.lineEnd cs
    else if isBlank c then
      if badIndent level column g c then none
      else doubleQuoted? level line (column + 1) (g.blank c) cs
    else if c = '"' ∧ column = 0 ∧ g = .escaped 0 then some ([], ⟨line, column + 1, false, cs⟩)
    else if misplaced level column (c :: cs) then none
    else if c = '"' then some (g.text, ⟨line, column + 1, false, cs⟩)
    else if c = '\\' then
      match cs with
      | '\n' :: cs => before g.text (doubleQuoted? level (line + 1) 0 (.escaped 0) cs)
      | 'x' :: d₁ :: d₂ :: cs => do
        let x ← numbered? [d₁, d₂]
        before (g.text ++ [x]) (doubleQuoted? level line (column + 4) .none cs)
      | 'u' :: d₁ :: d₂ :: d₃ :: d₄ :: cs => do
        let x ← numbered? [d₁, d₂, d₃, d₄]
        before (g.text ++ [x]) (doubleQuoted? level line (column + 6) .none cs)
      | 'U' :: d₁ :: d₂ :: d₃ :: d₄ :: d₅ :: d₆ :: d₇ :: d₈ :: cs => do
        let x ← numbered? [d₁, d₂, d₃, d₄, d₅, d₆, d₇, d₈]
        before (g.text ++ [x]) (doubleQuoted? level line (column + 10) .none cs)
      | e :: cs => do
        let x ← escaped? e
        before (g.text ++ [x]) (doubleQuoted? level line (column + 2) .none cs)
      | [] => none
    else before (g.text ++ [c]) (doubleQuoted? level line (column + 1) .none cs)

end SearchClient.Yaml
