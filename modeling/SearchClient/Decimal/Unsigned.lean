import SearchClient.Decimal.Numeral

/-!
# Bounded unsigned numerals

Texts read as whole numbers that must not pass a limit: one optional plus sign
and at least one digit, leading zeros allowed.  The first character at which the
text goes wrong decides which error is reported.

## Main definitions

* `IntegerError` — why a text is no such number.
* `readUnsigned` — the number, or the error.
-/

namespace SearchClient

/-- Why a text is not a number within bounds. -/
inductive IntegerError
  /-- The text is empty. -/
  | empty
  /-- Some character is no digit, or there is only a sign. -/
  | invalidDigit
  /-- The number is above the limit. -/
  | tooLarge
  deriving DecidableEq, Repr, Inhabited

/-- The error in words. -/
def IntegerError.message : IntegerError → String
  | .empty => "cannot parse integer from empty string"
  | .invalidDigit => "invalid digit found in string"
  | .tooLarge => "number too large to fit in target type"

namespace Decimal

/-- Reads digits that follow those of `acc`.  A character that is no digit is
reported before the limit is looked at. -/
def readDigits (limit acc : Nat) : List Char → Except IntegerError Nat
  | [] => .ok acc
  | c :: cs =>
    match digitValue? c with
    | none => .error .invalidDigit
    | some d =>
      if limit < 10 * acc + d then .error .tooLarge else readDigits limit (10 * acc + d) cs

/-- Reads a number that is at most `limit`. -/
def readUnsigned (limit : Nat) : List Char → Except IntegerError Nat
  | [] => .error .empty
  | ['+'] => .error .invalidDigit
  | '+' :: cs => readDigits limit 0 cs
  | cs => readDigits limit 0 cs

end Decimal

end SearchClient
