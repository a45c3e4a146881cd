/-!
# Decimal numerals

Whole numbers written in base ten and read back.

## Main definitions

* `digit`, `digitValue?` — one digit and its value.
* `numeral`, `signed`, `padded` — the shortest numeral, with a sign, at a width.
* `ofDigits?`, `numeralValue?`, `signedValue?` — numerals read back.
-/

namespace SearchClient.Decimal

/-- The character of a digit below ten. -/
def digit (d : Nat) : Char := Char.ofNat (48 + d)

/-- The value of a digit. -/
def digitValue? (c : Char) : Option Nat :=
  if 48 ≤ c.toNat ∧ c.toNat ≤ 57 then some (c.toNat - 48) else none

/-- The digits of a number, without leading zeros; zero has one digit. -/
def numeral (n : Nat) : List Char :=
  if n < 10 then [digit n] else numeral (n / 10) ++ [digit (n % 10)]

/-- The numeral of a whole number, with a sign if it is negative. -/
def signed : Int → List Char
  | .ofNat n => numeral n
  | .negSucc n => '-' :: numeral (n + 1)

/-- The numeral of a number, filled up with zeros to a width. -/
def padded (width n : Nat) : List Char :=
  List.replicate (width - (numeral n).length) '0' ++ numeral n

/-- The value of some digits that follow those of `acc`. -/
def ofDigits? (acc : Nat) : List Char → Option Nat
  | [] => some acc
  | c :: cs => (digitValue? c).bind fun d => ofDigits? (10 * acc + d) cs

/-- The value of a numeral, leading zeros allowed. -/
def numeralValue? : List Char → Option Nat
  | [] => none
  | cs => ofDigits? 0 cs

/-- The value of a numeral with an optional sign. -/
def signedValue? : List Char → Option Int
  | '-' :: cs => (numeralValue? cs).map fun n => -(n : Int)
  | '+' :: cs => (numeralValue? cs).map Int.ofNat
  | cs => (numeralValue? cs).map Int.ofNat

theorem numeral_of_lt {n : Nat} (h : n < 10) : numeral n = [digit n] := by
  rw [numeral, if_pos h]

theorem numeral_of_le {n : Nat} (h : 10 ≤ n) :
    numeral n = numeral (n / 10) ++ [digit (n % 10)] := by
  rw [numeral, if_neg (by omega)]

@[simp] theorem signed_ofNat (n : Nat) : signed n = numeral n := rfl

/-- The text of a whole number. -/
def text (z : Int) : String := String.ofList (signed z)

end SearchClient.Decimal
