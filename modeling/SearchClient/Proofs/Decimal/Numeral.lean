import Mathlib.Algebra.Order.Group.Nat
import SearchClient.Decimal.Numeral

/-!
# Numerals read back

A numeral is read back as its number, zeros in front of it or not, and at a width
that has room for it the padded numeral takes up the width exactly.  The
recursion of `numeral` takes the last digit off, so that is how numerals are taken
apart here.

## Main definitions

* `IsDigit` — the decimal digits.
* `readDigits?`, `readLong?` — a numeral of a width, and one of a width at least,
  at the front of a text.

## Main results

* `injective_of_read` — what is read back has a text of its own.
* `ofDigits?_padded` — **a padded numeral is read back as its number.**
* `length_padded` — a padded numeral takes up its width.
* `padded_lt_padded_iff` — numerals of one width are ordered like their numbers.
* `readDigits?_padded`, `readLong?_padded` — padded numerals at the front of a text.
-/

namespace SearchClient.Decimal

/-- What is read back has a text of its own. -/
theorem injective_of_read {α β : Type} {write : α → β} {read : β → Option α}
    (h : ∀ a, read (write a) = some a) : Function.Injective write := by
  intro a b hab
  have hread := h a
  rw [hab, h b] at hread
  exact (Option.some.inj hread).symm

/-! ### Digits -/

/-- The characters that are decimal digits. -/
def IsDigit (c : Char) : Prop := (digitValue? c).isSome = true

instance (c : Char) : Decidable (IsDigit c) :=
  inferInstanceAs (Decidable (_ = _))

theorem digitValue?_digit {d : ℕ} (h : d < 10) : digitValue? (digit d) = some d := by
  have hall : ∀ d < 10, digitValue? (digit d) = some d := by decide
  exact hall d h

theorem isDigit_digit {d : ℕ} (h : d < 10) : IsDigit (digit d) := by
  unfold IsDigit
  rw [digitValue?_digit h]
  rfl

/-! ### Values -/

/-- Digits that follow others are read on from the value of those. -/
theorem ofDigits?_append (acc : ℕ) (cs ds : List Char) :
    ofDigits? acc (cs ++ ds) = (ofDigits? acc cs).bind fun n => ofDigits? n ds := by
  induction cs generalizing acc with
  | nil => rfl
  | cons c cs ih =>
    rw [List.cons_append, ofDigits?, ofDigits?]
    cases digitValue? c with
    | none => rfl
    | some d => exact ih (10 * acc + d)

/-- One more digit at the end. -/
theorem ofDigits?_concat {acc n d : ℕ} {cs : List Char} (h : ofDigits? acc cs = some n)
    (hd : d < 10) : ofDigits? acc (cs ++ [digit d]) = some (10 * n + d) := by
  rw [ofDigits?_append, h, Option.bind_some, ofDigits?, digitValue?_digit hd]
  rfl

theorem ofDigits?_zeros (k : ℕ) (cs : List Char) :
    ofDigits? 0 (List.replicate k '0' ++ cs) = ofDigits? 0 cs := by
  induction k with
  | zero => rfl
  | succ k ih =>
    rw [List.replicate_succ, List.cons_append, ofDigits?]
    exact ih

/-- A numeral is read back as its number. -/
theorem ofDigits?_numeral (n : ℕ) : ofDigits? 0 (numeral n) = some n := by
  induction n using numeral.induct with
  | case1 n h =>
    rw [numeral_of_lt h, ofDigits?, digitValue?_digit h, Option.bind_some, ofDigits?]
    simp
  | case2 n h ih =>
    rw [numeral_of_le (Nat.le_of_not_lt h), ofDigits?_concat ih (by omega)]
    congr 1
    omega

theorem numeral_injective : Function.Injective numeral := injective_of_read ofDigits?_numeral

/-- **A padded numeral is read back as its number.** -/
theorem ofDigits?_padded (k n : ℕ) : ofDigits? 0 (padded k n) = some n := by
  unfold padded
  rw [ofDigits?_zeros, ofDigits?_numeral]

/-! ### The digits of a numeral -/

theorem isDigit_of_mem_numeral {n : ℕ} {c : Char} (h : c ∈ numeral n) : IsDigit c := by
  induction n using numeral.induct with
  | case1 n hn =>
    rw [numeral_of_lt hn, List.mem_singleton] at h
    rw [h]
    exact isDigit_digit hn
  | case2 n hn ih =>
    rw [numeral_of_le (Nat.le_of_not_lt hn), List.mem_append, List.mem_singleton] at h
    rcases h with h | h
    · exact ih h
    · rw [h]
      exact isDigit_digit (by omega)

theorem isDigit_of_mem_padded {k n : ℕ} {c : Char} (h : c ∈ padded k n) : IsDigit c := by
  unfold padded at h
  rw [List.mem_append] at h
  rcases h with h | h
  · -- a zero in front
    rw [List.eq_of_mem_replicate h]
    decide
  · exact isDigit_of_mem_numeral h

/-- The first digit of a numeral, which is zero for zero only. -/
theorem numeral_eq_cons (n : ℕ) :
    ∃ d ds, numeral n = digit d :: ds ∧ d < 10 ∧ (0 < n → 0 < d) := by
  induction n using numeral.induct with
  | case1 n hlt => exact ⟨n, [], numeral_of_lt hlt, hlt, id⟩
  | case2 n hge ih =>
    obtain ⟨d, ds, hn, hd, hpos⟩ := ih
    refine ⟨d, ds ++ [digit (n % 10)], ?_, hd, fun _ => hpos (by omega)⟩
    rw [numeral_of_le (by omega), hn]
    rfl

/-! ### Width -/

/-- A number below a power of ten has at most as many digits. -/
theorem length_numeral_le {k n : ℕ} (h : n < 10 ^ (k + 1)) : (numeral n).length ≤ k + 1 := by
  induction k generalizing n with
  | zero =>
    rw [numeral_of_lt (by omega)]
    exact Nat.le_refl 1
  | succ k ih =>
    rcases Nat.lt_or_ge n 10 with hlt | hge
    · rw [numeral_of_lt hlt]
      exact Nat.le_add_left 1 (k + 1)
    · -- the last digit comes off
      have hdiv : n / 10 < 10 ^ (k + 1) := by
        rw [Nat.div_lt_iff_lt_mul (by omega), ← Nat.pow_succ]
        exact h
      have hrest := ih hdiv
      rw [numeral_of_le hge, List.length_append, List.length_singleton]
      omega

/-- A padded numeral takes up its width, if there is room for it. -/
theorem length_padded {k n : ℕ} (h : n < 10 ^ (k + 1)) : (padded (k + 1) n).length = k + 1 := by
  have hle := length_numeral_le h
  unfold padded
  rw [List.length_append, List.length_replicate]
  omega

theorem le_length_padded (k n : ℕ) : k ≤ (padded k n).length := by
  unfold padded
  rw [List.length_append, List.length_replicate]
  omega

/-! ### Order -/

/-- The last digit of a padded numeral comes off, whether it fills the width or not. -/
theorem padded_succ (k n : ℕ) :
    padded (k + 2) n = padded (k + 1) (n / 10) ++ [digit (n % 10)] := by
  unfold padded
  rcases Nat.lt_or_ge n 10 with hlt | hge
  · -- the rest is nothing but zeros
    have hdiv : n / 10 = 0 := by omega
    have hmod : n % 10 = n := by omega
    have hzero : numeral 0 = ['0'] := numeral_of_lt (by omega)
    rw [hdiv, hmod, hzero, numeral_of_lt hlt, List.length_singleton, List.length_singleton,
      ← List.replicate_succ']
    rfl
  · have hzeros (l : ℕ) : k + 2 - (l + 1) = k + 1 - l := Nat.add_sub_add_right (k + 1) 1 l
    rw [numeral_of_le hge, List.length_append, List.length_singleton, List.append_assoc, hzeros]

theorem padded_injective (k : ℕ) : Function.Injective (padded k) :=
  injective_of_read (ofDigits?_padded k)

theorem digit_lt_digit_iff {c d : ℕ} (hc : c < 10) (hd : d < 10) : digit c < digit d ↔ c < d := by
  have hall : ∀ c < 10, ∀ d < 10, (digit c < digit d ↔ c < d) := by decide
  exact hall c hc d hd

/-- Texts whose fronts have one length are ordered by the fronts first. -/
theorem append_lt_append_iff {cs ds : List Char} (h : cs.length = ds.length) (us vs : List Char) :
    cs ++ us < ds ++ vs ↔ cs < ds ∨ cs = ds ∧ us < vs := by
  induction cs generalizing ds with
  | nil =>
    obtain rfl : ds = [] := List.length_eq_zero_iff.mp h.symm
    simp
  | cons c cs ih =>
    cases ds with
    | nil => cases h
    | cons d ds =>
      rw [List.cons_append, List.cons_append, List.cons_lt_cons_iff, List.cons_lt_cons_iff,
        ih (Nat.succ.inj h), List.cons.injEq, and_or_left, or_assoc, and_assoc]

/-- **Numerals of one width are ordered like their numbers.** -/
theorem padded_lt_padded_iff {k m n : ℕ} (hm : m < 10 ^ (k + 1)) (hn : n < 10 ^ (k + 1)) :
    padded (k + 1) m < padded (k + 1) n ↔ m < n := by
  induction k generalizing m n with
  | zero =>
    have hone (d : ℕ) (hd : d < 10) : padded 1 d = [digit d] := by
      rw [padded, numeral_of_lt hd]
      rfl
    rw [hone m (by omega), hone n (by omega), List.cons_lt_cons_iff,
      digit_lt_digit_iff (by omega) (by omega)]
    simp
  | succ k ih =>
    -- the leading digits decide, or else the last ones
    have hmdiv : m / 10 < 10 ^ (k + 1) := by omega
    have hndiv : n / 10 < 10 ^ (k + 1) := by omega
    have hlen : (padded (k + 1) (m / 10)).length = (padded (k + 1) (n / 10)).length := by
      rw [length_padded hmdiv, length_padded hndiv]
    rw [padded_succ, padded_succ, append_lt_append_iff hlen, ih hmdiv hndiv,
      (padded_injective (k + 1)).eq_iff, List.cons_lt_cons_iff,
      digit_lt_digit_iff (by omega) (by omega)]
    simp only [List.not_lt_nil, and_false, or_false]
    omega

/-- Texts that begin with a field of one width are ordered by the field first. -/
theorem field_lt_field_iff {k m n : ℕ} (hm : m < 10 ^ (k + 1)) (hn : n < 10 ^ (k + 1)) (c : Char)
    (us vs : List Char) :
    padded (k + 1) m ++ c :: us < padded (k + 1) n ++ c :: vs ↔ m < n ∨ m = n ∧ us < vs := by
  have hlen : (padded (k + 1) m).length = (padded (k + 1) n).length := by
    rw [length_padded hm, length_padded hn]
  rw [append_lt_append_iff hlen, padded_lt_padded_iff hm hn, (padded_injective (k + 1)).eq_iff,
    List.cons_lt_cons_iff]
  simp

/-! ### Numerals at the front of a text -/

/-- The value of the first `k` characters, all digits, and what follows them. -/
def readDigits? (k : ℕ) (cs : List Char) : Option (ℕ × List Char) :=
  if (cs.take k).length = k then (ofDigits? 0 (cs.take k)).map fun n => (n, cs.drop k) else none

/-- The value of all digits in front, `k` of them at least, and what follows them. -/
def readLong? (k : ℕ) (cs : List Char) : Option (ℕ × List Char) :=
  if k ≤ (cs.takeWhile (IsDigit ·)).length then
    (ofDigits? 0 (cs.takeWhile (IsDigit ·))).map fun n => (n, cs.dropWhile (IsDigit ·))
  else none

/-- A padded numeral is read off the front of a text by its width. -/
theorem readDigits?_padded {k n : ℕ} (h : n < 10 ^ (k + 1)) (rest : List Char) :
    readDigits? (k + 1) (padded (k + 1) n ++ rest) = some (n, rest) := by
  have hlen := length_padded h
  unfold readDigits?
  rw [List.take_left' hlen, List.drop_left' hlen, if_pos hlen, ofDigits?_padded]
  rfl

/-- A padded numeral is read off the front of a text up to the first character that
is no digit. -/
theorem readLong?_padded (k n : ℕ) {c : Char} (hc : ¬IsDigit c) (rest : List Char) :
    readLong? k (padded k n ++ c :: rest) = some (n, c :: rest) := by
  have hdigits : ∀ d ∈ padded k n, decide (IsDigit d) = true := by
    intro d hd
    exact decide_eq_true (isDigit_of_mem_padded hd)
  -- the digits end where the numeral ends
  have hstop : decide (IsDigit c) = false := decide_eq_false hc
  have htake : (padded k n ++ c :: rest).takeWhile (IsDigit ·) = padded k n := by
    rw [List.takeWhile_append_of_pos hdigits, List.takeWhile_cons_of_neg (by simp [hstop]),
      List.append_nil]
  have hdrop : (padded k n ++ c :: rest).dropWhile (IsDigit ·) = c :: rest := by
    rw [List.dropWhile_append_of_pos hdigits, List.dropWhile_cons_of_neg (by simp [hstop])]
  unfold readLong?
  rw [htake, hdrop, if_pos (le_length_padded k n), ofDigits?_padded]
  rfl

end SearchClient.Decimal
