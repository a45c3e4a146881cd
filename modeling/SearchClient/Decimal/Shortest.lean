import SearchClient.Decimal.Numeral

/-!
# Shortest decimals

A finite double stands for the number `m · 2 ^ q`.  The reals that round to it
fill an interval around it, and among the decimals in that interval the text of
the double is one with the fewest digits; of two with equally many, the nearer
one, and of two equally near ones the larger.  The text is always positional:
zeros fill the places between the digits and the decimal point, and whole
numbers have no point.

All comparisons are made between natural numbers, after both sides have been
scaled to whole numbers.

## Main definitions

* `Scientific`, `Scientific.trim` — `d · 10 ^ k`, without trailing zeros.
* `Dyadic`, `Dyadic.shortest` — `m · 2 ^ q` and its shortest decimal.
* `positional` — the text of `d · 10 ^ k`.
* `ofDouble` — the text of a double.
-/

namespace SearchClient.Decimal

/-- The positive number `significand · 2 ^ exponent`, as doubles hold it. -/
structure Dyadic where
  /-- The significand. -/
  significand : Nat
  /-- The binary exponent. -/
  exponent : Int
  /-- Whether the doubles below lie half as far apart as those above. -/
  narrowBelow : Bool
  deriving DecidableEq, Repr, Inhabited

/-- The number `digits · 10 ^ exponent`. -/
structure Scientific where
  /-- The digits, read as one number. -/
  digits : Nat
  /-- The decimal exponent. -/
  exponent : Int
  deriving DecidableEq, Repr, Inhabited

/-- The same number without trailing zeros among the digits. -/
def Scientific.trim : Scientific → Scientific
  | ⟨digits, exponent⟩ =>
    if digits ≠ 0 ∧ digits % 10 = 0 then trim ⟨digits / 10, exponent + 1⟩
    else ⟨digits, exponent⟩
termination_by x => x.digits
decreasing_by omega

namespace Dyadic

/-- The number of digits before the decimal point; for numbers below one, less
the zeros that follow the point.  So the number lies between the powers of ten
that this and the exponent before it name. -/
def magnitude (x : Dyadic) : Int :=
  let scaled :=
    x.significand * Nat.pow 10 400 * Nat.pow 2 x.exponent.toNat / Nat.pow 2 (-x.exponent).toNat
  (numeral scaled).length - 400

/-- The shortest decimal among the two neighbours of `x` on the grid of decimals
with `places` digits, if one of them rounds to `x`.

In quarters of the last binary place `x` is `4 · significand`, and the reals
that round to it reach two quarters up and two down, or one quarter down where
the doubles below are denser.  The ends belong to it if the significand is
even. -/
def onGrid? (x : Dyadic) (places : Nat) : Option Scientific :=
  let k := x.magnitude - places
  let q := x.exponent - 2
  let unit := Nat.pow 10 k.toNat * Nat.pow 2 (-q).toNat
  let scale := Nat.pow 2 q.toNat * Nat.pow 10 (-k).toNat
  let value := 4 * x.significand * scale
  let low := (4 * x.significand - if x.narrowBelow then 1 else 2) * scale
  let high := (4 * x.significand + 2) * scale
  let closed := x.significand % 2 == 0
  let rounds (d : Nat) : Bool :=
    if closed then low ≤ d * unit && d * unit ≤ high else low < d * unit && d * unit < high
  let below := value / unit
  let above := below + 1
  match rounds below, rounds above with
  | true, true =>
    if value - below * unit < above * unit - value then some ⟨below, k⟩ else some ⟨above, k⟩
  | true, false => some ⟨below, k⟩
  | false, true => some ⟨above, k⟩
  | false, false => none

/-- The decimal with the fewest digits that rounds to `x`; seventeen digits are
always enough. -/
def shortest (x : Dyadic) : Scientific :=
  (((List.range 17).findSome? fun n => x.onGrid? (n + 1)).getD ⟨0, 0⟩).trim

end Dyadic

/-! ### Positional text -/

/-- The text of `digits · 10 ^ exponent` without an exponent. -/
def positional (x : Scientific) : List Char :=
  let ds := numeral x.digits
  if 0 ≤ x.exponent then
    if x.digits = 0 then ds else ds ++ List.replicate x.exponent.toNat '0'
  else
    let places := (-x.exponent).toNat
    let ds := List.replicate (places + 1 - ds.length) '0' ++ ds
    ds.take (ds.length - places) ++ '.' :: ds.drop (ds.length - places)

/-! ### Doubles -/

/-- The text of a double: its shortest decimal, with names for the values that
are no numbers and a sign for negative zero. -/
def ofDouble (x : Float) : List Char :=
  let bits := x.toBits.toNat
  let sign := if bits / Nat.pow 2 63 = 1 then ['-'] else []
  let biased := bits / Nat.pow 2 52 % Nat.pow 2 11
  let fraction := bits % Nat.pow 2 52
  if biased = 2047 then
    if fraction = 0 then sign ++ ['i', 'n', 'f'] else ['N', 'a', 'N']
  else if biased = 0 then
    if fraction = 0 then sign ++ ['0']
    else sign ++ positional (Dyadic.shortest ⟨fraction, -1074, false⟩)
  else
    sign ++ positional
      (Dyadic.shortest ⟨Nat.pow 2 52 + fraction, (biased : Int) - 1075, fraction == 0 && 1 < biased⟩)

end SearchClient.Decimal
