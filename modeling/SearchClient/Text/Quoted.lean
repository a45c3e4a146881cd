import SearchClient.Json.Text
import SearchClient.Text.Hidden

/-!
# Quoted texts in messages

A text in quotation marks, in which every character shows: quotation marks,
backslashes and line ends are written with a backslash, and hidden characters by
their number.

## Main definitions

* `quoted` — a text in quotation marks.
-/

namespace SearchClient.Text

/-- A number in base sixteen, in lower case. -/
def hexadecimal (n : Nat) : List Char :=
  if n < 16 then [Json.hexDigit n] else hexadecimal (n / 16) ++ [Json.hexDigit (n % 16)]

/-- A character as it stands between quotation marks. -/
def showChar (c : Char) : List Char :=
  if c = '"' then ['\\', '"']
  else if c = '\\' then ['\\', '\\']
  else if c = '\n' then ['\\', 'n']
  else if c = '\r' then ['\\', 'r']
  else if c = '\t' then ['\\', 't']
  else if c.toNat = 0 then ['\\', '0']
  else if isHidden c then ['\\', 'u', '\x7b'] ++ hexadecimal c.toNat ++ ['\x7d']
  else [c]

/-- A text in quotation marks. -/
def quoted (s : String) : String := String.ofList ('"' :: s.toList.flatMap showChar ++ ['"'])

end SearchClient.Text
