/-!
# Percent encoding

Letters, digits and the marks `-`, `.`, `_` and `~` stand for themselves.  Every
byte of the UTF-8 form of any other character is written as a percent sign and
two hexadecimal digits.

## Main definitions

* `Percent.isUnreserved` — the bytes that stand for themselves.
* `Percent.encode` — the encoded text.
-/

namespace SearchClient.Percent

/-- Whether a byte stands for itself. -/
def isUnreserved (b : UInt8) : Bool :=
  let n := b.toNat
  (48 ≤ n && n ≤ 57) || (65 ≤ n && n ≤ 90) || (97 ≤ n && n ≤ 122) ||
    n == 45 || n == 46 || n == 95 || n == 126

/-- A hexadecimal digit, in upper case. -/
def hexDigit (d : Nat) : Char := if d < 10 then Char.ofNat (48 + d) else Char.ofNat (55 + d)

/-- The text of one byte. -/
def encodeByte (b : UInt8) : List Char :=
  if isUnreserved b then [Char.ofNat b.toNat]
  else ['%', hexDigit (b.toNat / 16), hexDigit (b.toNat % 16)]

/-- The bytes of the UTF-8 form of a text. -/
def bytes (s : String) : List UInt8 := s.toUTF8.data.toList

/-- The percent-encoded text. -/
def encode (s : String) : String := String.ofList ((bytes s).flatMap encodeByte)

end SearchClient.Percent
