import SearchClient.Decimal.Shortest
import SearchClient.Json.Basic

/-!
# The text of a JSON value

The compact text of a value: no blanks, and in strings only what has to be
escaped is escaped — the quotation mark, the backslash and the control
characters.

## Main definitions

* `Json.escape`, `Json.quote` — one character and a whole string.
* `Json.render` — the text of a value.
-/

namespace SearchClient.Json

open Decimal (digit signed)

/-- A hexadecimal digit, in lower case. -/
def hexDigit (d : Nat) : Char := if d < 10 then digit d else Char.ofNat (87 + d)

/-- A character as it stands in a string. -/
def escape (c : Char) : List Char :=
  if c = '"' then ['\\', '"']
  else if c = '\\' then ['\\', '\\']
  else if c.toNat = 8 then ['\\', 'b']
  else if c.toNat = 9 then ['\\', 't']
  else if c.toNat = 10 then ['\\', 'n']
  else if c.toNat = 12 then ['\\', 'f']
  else if c.toNat = 13 then ['\\', 'r']
  else if c.toNat < 32 then ['\\', 'u', '0', '0', hexDigit (c.toNat / 16), hexDigit (c.toNat % 16)]
  else [c]

/-- A string in quotation marks. -/
def quote (s : String) : List Char := '"' :: s.toList.flatMap escape ++ ['"']

/-- The text of a decimal.  It has at least one place, and no zero at the end
after the first place. -/
def renderDecimal (mantissa : Int) (places : Nat) : List Char :=
  let x := Decimal.Scientific.trim ⟨mantissa.natAbs, -places⟩
  let text := Decimal.positional (if mantissa = 0 then ⟨0, 0⟩ else x)
  (if mantissa < 0 then ['-'] else []) ++
    if text.contains '.' then text else text ++ ['.', '0']

mutual

/-- The text of a value. -/
def chars : Json → List Char
  | .null => ['n', 'u', 'l', 'l']
  | .bool true => ['t', 'r', 'u', 'e']
  | .bool false => ['f', 'a', 'l', 's', 'e']
  | .int n => signed n
  | .decimal m p => renderDecimal m p
  | .string s => quote s
  | .array vs => '[' :: elementChars true vs ++ [']']
  | .object ms => '\x7b' :: memberChars true ms ++ ['\x7d']

/-- The texts of the elements of a list; all but the first follow a comma. -/
def elementChars (first : Bool) : List Json → List Char
  | [] => []
  | v :: vs => (if first then [] else [',']) ++ chars v ++ elementChars false vs

/-- The texts of the members of an object. -/
def memberChars (first : Bool) : List (String × Json) → List Char
  | [] => []
  | (k, v) :: ms =>
    (if first then [] else [',']) ++ quote k ++ ':' :: chars v ++ memberChars false ms

end

/-- The compact text of a value. -/
def render (v : Json) : String := String.ofList v.chars

end SearchClient.Json
