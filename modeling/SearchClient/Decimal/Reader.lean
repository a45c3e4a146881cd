import SearchClient.Decimal.Numeral

/-!
# Reading decimals

Texts of doubles read as the nearest double: an optional sign, then digits with
an optional point and an optional exponent, or the name of a value that is no
finite number.

## Main definitions

* `Parts`, `Parts.ofChars?` — a decimal taken apart.
* `Parts.toDouble` — the nearest double.
* `readDouble?` — both together.
-/

namespace SearchClient.Decimal

/-- The digits at the front of a text, and what follows them. -/
def spanDigits (cs : List Char) : List Char × List Char :=
  cs.span fun c => (digitValue? c).isSome

/-- The decimal `digits · 10 ^ exponent`. -/
structure Parts where
  /-- All digits, those after the point included, as one number. -/
  digits : Nat
  /-- How many digits were given. -/
  count : Nat
  /-- The decimal exponent of the last digit. -/
  exponent : Int
  deriving DecidableEq, Repr, Inhabited

namespace Parts

/-- Reads the exponent that may follow the digits; nothing else may. -/
def exponent? : List Char → Option Int
  | [] => some 0
  | c :: cs => if c = 'e' ∨ c = 'E' then signedValue? cs else none

/-- Takes an unsigned decimal apart.  The point may come first or last, but a
digit has to be there. -/
def ofChars? (cs : List Char) : Option Parts :=
  let (whole, rest) := spanDigits cs
  let (fraction, rest) := match rest with
    | '.' :: r => spanDigits r
    | r => ([], r)
  match ofDigits? 0 (whole ++ fraction), exponent? rest with
  | some n, some e =>
    if whole.isEmpty && fraction.isEmpty then none
    else some ⟨n, whole.length + fraction.length, e - fraction.length⟩
  | _, _ => none

/-- The double nearest to a decimal.  Exponents far out of range are settled
without computing the power of ten. -/
def toDouble (p : Parts) : Float :=
  if p.digits = 0 then 0
  else if 400 < p.exponent then 1 / 0
  else if p.exponent < -400 - p.count then 0
  else Float.ofScientific p.digits (p.exponent < 0) p.exponent.natAbs

end Parts

/-- Reads an unsigned double; names are read in either case. -/
def readUnsignedDouble? (cs : List Char) : Option Float :=
  let name := String.ofList (cs.map Char.toLower)
  if name = "inf" ∨ name = "infinity" then some (1 / 0)
  else if name = "nan" then some (0 / 0)
  else (Parts.ofChars? cs).map Parts.toDouble

/-- Reads a double with an optional sign. -/
def readDouble? : List Char → Option Float
  | '-' :: cs => (readUnsignedDouble? cs).map fun x => -x
  | '+' :: cs => readUnsignedDouble? cs
  | cs => readUnsignedDouble? cs

end SearchClient.Decimal
