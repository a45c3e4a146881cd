import Mathlib.Algebra.Ring.Int.Defs
import SearchClient.Json.Basic
import SearchClient.Proofs.Decimal.Numeral
import SearchClient.Proofs.Json.Values
import SearchClient.Proofs.Url.Percent

/-!
# A reader of JSON

The whole of JSON is read: blanks anywhere between tokens, strings with every escape and
with pairs of numbers for characters beyond the first plane, numbers with fractions and
exponents.  What is not JSON is refused: control characters in strings, halves of pairs,
zeros in front of numbers, commas before closing brackets, and text after the value.

The members of an object are read as they are listed, and put in order afterwards; of two
with the same key the later one counts.  Whole numbers of 64 bits are whole numbers, and
all other numbers are decimals.

Readers of parts take the reader of values as an argument.

## Main definitions

* `readString?` — the rest of a string, from its first quotation mark on.
* `readNumber?` — a number.
* `readList?` — items between commas, up to a closing bracket.
* `readValue?` — a value, objects inside each other to a given depth.
* `listing?` — the value of a text, members as they are listed.
* `ofText?` — the value of a text.
-/

namespace SearchClient.Json

open Decimal (IsDigit ofDigits? readLong?)
open Percent (hexValue?)

/-- Something read from the front of a text, and what follows it. -/
abbrev Reader (α : Type) := List Char → Option (α × List Char)

/-! ### Strings -/

/-- The character that a letter after a backslash stands for. -/
def escaped? (c : Char) : Option Char :=
  if c = '"' ∨ c = '\\' ∨ c = '/' then some c
  else if c = 'b' then some (Char.ofNat 8)
  else if c = 't' then some (Char.ofNat 9)
  else if c = 'n' then some (Char.ofNat 10)
  else if c = 'f' then some (Char.ofNat 12)
  else if c = 'r' then some (Char.ofNat 13)
  else none

/-- Where reading a string stands. -/
inductive StringState
  /-- Between characters. -/
  | text
  /-- After a backslash. -/
  | escape
  /-- In a number of four digits, with `left` digits to come after the next one and the
  value so far; `high` is the first half if it is the second one of a pair. -/
  | number (high : Option ℕ) (left value : ℕ)
  /-- After the first half of a pair. -/
  | half (high : ℕ)
  /-- After the first half of a pair and a backslash. -/
  | halfEscape (high : ℕ)
  deriving DecidableEq, Repr, Inhabited

/-- The first halves of pairs. -/
def IsHigh (n : ℕ) : Prop := 0xd800 ≤ n ∧ n < 0xdc00

/-- The second halves of pairs. -/
def IsLow (n : ℕ) : Prop := 0xdc00 ≤ n ∧ n < 0xe000

instance (n : ℕ) : Decidable (IsHigh n) :=
  inferInstanceAs (Decidable (_ ∧ _))

instance (n : ℕ) : Decidable (IsLow n) :=
  inferInstanceAs (Decidable (_ ∧ _))

/-- A character before the rest of a string. -/
def put (c : Char) (p : List Char × List Char) : List Char × List Char := (c :: p.1, p.2)

/-- The characters of a string up to its closing quotation mark. -/
def readString? : StringState → Reader (List Char)
  | _, [] => none
  | .text, c :: cs =>
    if c = '"' then some ([], cs)
    else if c = '\\' then readString? .escape cs
    else if c.toNat < 32 then none
    else (readString? .text cs).map (put c)
  | .escape, c :: cs =>
    if c = 'u' then readString? (.number none 3 0) cs
    else match escaped? c with
      | some e => (readString? .text cs).map (put e)
      | none => none
  | .number high (left + 1) value, c :: cs =>
    match hexValue? c with
    | some d => readString? (.number high left (16 * value + d)) cs
    | none => none
  | .number none 0 value, c :: cs =>
    match hexValue? c with
    | some d =>
      if IsHigh (16 * value + d) then readString? (.half (16 * value + d)) cs
      else if IsLow (16 * value + d) then none
      else (readString? .text cs).map (put (Char.ofNat (16 * value + d)))
    | none => none
  | .number (some high) 0 value, c :: cs =>
    match hexValue? c with
    | some d =>
      if IsLow (16 * value + d) then
        (readString? .text cs).map
          (put (Char.ofNat (0x10000 + 0x400 * (high - 0xd800) + (16 * value + d - 0xdc00))))
      else none
    | none => none
  | .half high, c :: cs => if c = '\\' then readString? (.halfEscape high) cs else none
  | .halfEscape high, c :: cs =>
    if c = 'u' then readString? (.number (some high) 3 0) cs else none

/-! ### Numbers -/

/-- The digits before the point: a single zero, or digits that start with no zero. -/
def readWhole? : Reader ℕ
  | '0' :: cs => some (0, cs)
  | cs => readLong? 1 cs

/-- The digits after a point, if there is one. -/
def readFraction? : Reader (List Char)
  | '.' :: cs =>
    if (cs.takeWhile (IsDigit ·)).isEmpty then none
    else some (cs.takeWhile (IsDigit ·), cs.dropWhile (IsDigit ·))
  | cs => some ([], cs)

/-- A number with an optional sign. -/
def readPower? : Reader Int
  | '-' :: cs => (readLong? 1 cs).map fun (n, rest) => (-(n : Int), rest)
  | '+' :: cs => (readLong? 1 cs).map fun (n, rest) => ((n : Int), rest)
  | cs => (readLong? 1 cs).map fun (n, rest) => ((n : Int), rest)

/-- The number after an `e`, if there is one. -/
def readExponent? : Reader (Option Int)
  | 'e' :: cs => (readPower? cs).map fun (n, rest) => (some n, rest)
  | 'E' :: cs => (readPower? cs).map fun (n, rest) => (some n, rest)
  | cs => some (none, cs)

/-- The number with the given digits, without its point, and the place of its point. -/
def numberOf (n : Int) (fraction : List Char) : Option Int → Json
  | none => if fraction.isEmpty ∧ Fits n then .int n else .decimal n fraction.length
  | some e =>
    if e ≤ fraction.length then .decimal n (fraction.length - e).toNat
    else .decimal (n * 10 ^ (e - fraction.length).toNat) 0

/-- A number after its sign. -/
def readMagnitude? (negative : Bool) : Reader Json := fun cs => do
  let (whole, cs) ← readWhole? cs
  let (fraction, cs) ← readFraction? cs
  let (exponent, cs) ← readExponent? cs
  let n ← ofDigits? whole fraction
  some (numberOf (if negative then -(n : Int) else n) fraction exponent, cs)

/-- A number. -/
def readNumber? : Reader Json
  | '-' :: cs => readMagnitude? true cs
  | cs => readMagnitude? false cs

/-! ### Values -/

/-- The characters that may stand between tokens. -/
def isBlank (c : Char) : Bool := c == ' ' || c == '\t' || c == '\n' || c == '\r'

/-- A text without the blanks at its start. -/
def skipBlanks (cs : List Char) : List Char := cs.dropWhile isBlank

/-- A word that stands for a value. -/
def readWord? (word : String) (v : Json) : Reader Json := fun cs =>
  if word.toList.isPrefixOf cs then some (v, cs.drop word.toList.length) else none

/-- Items with commas between them, one at least, and the closing bracket. -/
def readItems? {α : Type} (close : Char) (read : Reader α) : ℕ → Reader (List α)
  | 0, _ => none
  | fuel + 1, cs => do
    let (x, cs) ← read cs
    match skipBlanks cs with
    | [] => none
    | c :: cs =>
      if c = close then some ([x], cs)
      else if c = ',' then (readItems? close read fuel cs).map fun (xs, rest) => (x :: xs, rest)
      else none

/-- Items with commas between them, and the closing bracket. -/
def readList? {α : Type} (close : Char) (read : Reader α) : Reader (List α) := fun cs =>
  match skipBlanks cs with
  | [] => none
  | c :: rest => if c = close then some ([], rest) else readItems? close read cs.length cs

/-- A member of an object. -/
def readMember? (read : Reader Json) : Reader (String × Json) := fun cs =>
  match skipBlanks cs with
  | '"' :: cs => do
    let (key, cs) ← readString? .text cs
    match skipBlanks cs with
    | ':' :: cs => (read cs).map fun (v, rest) => ((String.ofList key, v), rest)
    | _ => none
  | _ => none

/-- A value with lists and objects inside each other up to a depth. -/
def readValue? : ℕ → Reader Json
  | 0, _ => none
  | depth + 1, cs =>
    match skipBlanks cs with
    | '"' :: cs => (readString? .text cs).map fun (s, rest) => (.string (String.ofList s), rest)
    | '[' :: cs => (readList? ']' (readValue? depth) cs).map fun (vs, rest) => (.array vs, rest)
    | '\x7b' :: cs =>
      (readList? '\x7d' (readMember? (readValue? depth)) cs).map fun (ms, rest) =>
        (.object ms, rest)
    | 'n' :: cs => readWord? "null" .null ('n' :: cs)
    | 't' :: cs => readWord? "true" (.bool true) ('t' :: cs)
    | 'f' :: cs => readWord? "false" (.bool false) ('f' :: cs)
    | cs => readNumber? cs

/-- The value of a text, the members of objects as they are listed. -/
def listing? (text : String) : Option Json :=
  match readValue? text.toList.length text.toList with
  | some (v, rest) => if (skipBlanks rest).isEmpty then some v else none
  | none => none

mutual

/-- A value with the members of all objects in order, of two with the same key the later
one. -/
def inOrder : Json → Json
  | .array vs => .array (allInOrder vs)
  | .object ms => ofMembers (membersInOrder ms)
  | v => v

/-- `inOrder` for every element of a list. -/
def allInOrder : List Json → List Json
  | [] => []
  | v :: vs => v.inOrder :: allInOrder vs

/-- `inOrder` for the value of every member. -/
def membersInOrder : List (String × Json) → List (String × Json)
  | [] => []
  | (k, v) :: ms => (k, v.inOrder) :: membersInOrder ms

end

/-- The value of a text. -/
def ofText? (text : String) : Option Json := (listing? text).map inOrder

example : listing? "\x7b\"b\" : [12, \"\\u0041\"], \"a\": null\x7d" =
    some (.object [("b", .array [.int 12, .string "A"]), ("a", .null)]) := by rfl

example : listing? "[01]" = none := by rfl

end SearchClient.Json
