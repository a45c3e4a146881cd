import Mathlib.Data.List.Induction
import SearchClient.Proofs.Decimal.Numeral

/-!
# Whole numbers have one spelling

Among all texts that stand for a whole number, the numeral is the one without a plus sign and
without zeros in front, and zero has no sign at all.  The recursion of `numeral` takes the last
digit off, so a text of digits is compared with the numeral of its value from its end.

## Main definitions

* `Shortest` — digits without zeros in front.
* `Spells` — texts that spell a whole number.

## Main results

* `Shortest.eq_numeral` — **digits without zeros in front are the numeral of their value.**
* `spells_iff` — **a whole number has one spelling, its numeral.**
* `signedValue?_signed` — the numeral is read back as the number.
-/

namespace SearchClient.Decimal

/-! ### Digits -/

/-- A digit is the character of its value. -/
theorem eq_digit_of_digitValue? {c : Char} {d : ℕ} (h : digitValue? c = some d) :
    d < 10 ∧ c = digit d := by
  unfold digitValue? at h
  split at h
  · next hc =>
    obtain rfl := Option.some.inj h
    refine ⟨by omega, ?_⟩
    unfold digit
    rw [Nat.add_sub_cancel' hc.1, Char.ofNat_toNat]
  · cases h

theorem digit_eq_zero_iff {d : ℕ} (h : d < 10) : digit d = '0' ↔ d = 0 := by
  have hall : ∀ d < 10, (digit d = '0' ↔ d = 0) := by decide
  exact hall d h

/-- The last digit comes off. -/
theorem ofDigits?_concat_eq_some {ds : List Char} {c : Char} {acc n : ℕ}
    (h : ofDigits? acc (ds ++ [c]) = some n) :
    ∃ m d, ofDigits? acc ds = some m ∧ d < 10 ∧ c = digit d ∧ n = 10 * m + d := by
  rw [ofDigits?_append] at h
  obtain ⟨m, hm, hlast⟩ := Option.bind_eq_some_iff.1 h
  rw [ofDigits?] at hlast
  obtain ⟨d, hd, hn⟩ := Option.bind_eq_some_iff.1 hlast
  obtain ⟨hlt, hc⟩ := eq_digit_of_digitValue? hd
  exact ⟨m, d, hm, hlt, hc, (Option.some.inj hn).symm⟩

/-! ### Numbers without a sign -/

/-- One digit or more, without zeros in front; a zero stands by itself only. -/
structure Shortest (ds : List Char) : Prop where
  /-- There is a digit. -/
  ne_nil : ds ≠ []
  /-- There is nothing else. -/
  digits : ∀ c ∈ ds, IsDigit c
  /-- The first digit is no zero. -/
  leading : ds.head? = some '0' → ds = ['0']

theorem shortest_numeral (n : ℕ) : Shortest (numeral n) := by
  obtain ⟨d, ds, hn, hd, hpos⟩ := numeral_eq_cons n
  refine ⟨?_, fun c hc => isDigit_of_mem_numeral hc, ?_⟩
  · rw [hn]
    exact List.cons_ne_nil _ _
  · intro hhead
    rw [hn, List.head?_cons, Option.some.injEq, digit_eq_zero_iff hd] at hhead
    -- only the numeral of zero begins with a zero
    obtain rfl : n = 0 := Nat.eq_zero_of_not_pos fun h => (hpos h).ne' hhead
    exact numeral_of_lt (by omega)

/-- Without its last digit, a text of two digits or more still has no zero in front. -/
theorem Shortest.of_concat {ds : List Char} {c : Char} (h : Shortest (ds ++ [c]))
    (hne : ds ≠ []) : Shortest ds ∧ ds.head? ≠ some '0' := by
  obtain ⟨d, es, rfl⟩ := List.exists_cons_of_ne_nil hne
  have hd : (d :: es).head? ≠ some '0' := by
    intro hzero
    have hlength := congrArg List.length (h.leading hzero)
    simp at hlength
  exact ⟨⟨hne, fun e he => h.digits e (List.mem_append_left _ he), fun hzero => absurd hzero hd⟩, hd⟩

/-- **Digits without zeros in front are the numeral of their value.** -/
theorem Shortest.eq_numeral {ds : List Char} (h : Shortest ds) {n : ℕ}
    (hn : ofDigits? 0 ds = some n) : ds = numeral n := by
  induction ds using List.reverseRecOn generalizing n with
  | nil => exact absurd rfl h.ne_nil
  | append_singleton ds c ih =>
    obtain ⟨m, d, hm, hlt, rfl, rfl⟩ := ofDigits?_concat_eq_some hn
    by_cases hne : ds = []
    · subst hne
      obtain rfl : 0 = m := Option.some.inj hm
      rw [Nat.mul_zero, Nat.zero_add, numeral_of_lt hlt]
      rfl
    · obtain ⟨hds, hhead⟩ := h.of_concat hne
      have hrest : ds = numeral m := ih hds hm
      -- digits that do not begin with a zero are those of ten at least with one more digit
      have hpos : m ≠ 0 := by
        rintro rfl
        apply hhead
        rw [hrest, numeral_of_lt (by omega)]
        rfl
      have hdiv : (10 * m + d) / 10 = m := by omega
      have hmod : (10 * m + d) % 10 = d := by omega
      rw [numeral_of_le (n := 10 * m + d) (by omega), hdiv, hmod, ← hrest]

/-! ### Whole numbers -/

/-- Texts that spell a whole number: digits without zeros in front, with a minus sign before
those of a number below zero. -/
inductive Spells : List Char → ℤ → Prop
  /-- A number from zero on has no sign. -/
  | nonneg {ds : List Char} {n : ℕ} (h : Shortest ds) (hn : ofDigits? 0 ds = some n) : Spells ds n
  /-- A number below zero has a minus sign. -/
  | neg {ds : List Char} {n : ℕ} (h : Shortest ds) (hn : ofDigits? 0 ds = some n) (hpos : 0 < n) :
      Spells ('-' :: ds) (-n)

theorem signed_neg {n : ℕ} (h : 0 < n) : signed (-n) = '-' :: numeral n := by
  obtain ⟨m, rfl⟩ : ∃ m, n = m + 1 := ⟨n - 1, by omega⟩
  rfl

theorem spells_signed (z : ℤ) : Spells (signed z) z := by
  cases z with
  | ofNat n => exact .nonneg (shortest_numeral n) (ofDigits?_numeral n)
  | negSucc n => exact .neg (shortest_numeral (n + 1)) (ofDigits?_numeral (n + 1)) (Nat.succ_pos n)

/-- **A whole number has one spelling**, its numeral. -/
theorem spells_iff {cs : List Char} {z : ℤ} : Spells cs z ↔ cs = signed z := by
  constructor
  · intro h
    cases h with
    | nonneg h hn => exact h.eq_numeral hn
    | neg h hn hpos => rw [signed_neg hpos, ← h.eq_numeral hn]
  · rintro rfl
    exact spells_signed z

theorem numeralValue?_numeral (n : ℕ) : numeralValue? (numeral n) = some n := by
  obtain ⟨d, ds, hn, -⟩ := numeral_eq_cons n
  rw [← ofDigits?_numeral n, hn]
  rfl

/-- **The numeral of a whole number is read back as the number.** -/
theorem signedValue?_signed (z : ℤ) : signedValue? (signed z) = some z := by
  cases z with
  | negSucc n =>
    rw [signed, signedValue?, numeralValue?_numeral]
    rfl
  | ofNat n =>
    show signedValue? (numeral n) = some (n : ℤ)
    have hvalue := numeralValue?_numeral n
    obtain ⟨d, ds, hn, hd, -⟩ := numeral_eq_cons n
    have hdigit := isDigit_digit hd
    rw [hn] at hvalue ⊢
    unfold signedValue?
    -- the first character is a digit and no sign
    split
    · next heq =>
      rw [(List.cons.inj heq).1] at hdigit
      exact absurd hdigit (by decide)
    · next heq =>
      rw [(List.cons.inj heq).1] at hdigit
      exact absurd hdigit (by decide)
    · rw [hvalue]
      rfl

theorem signed_injective : Function.Injective signed := injective_of_read signedValue?_signed

/-- The characters of a whole number are digits and the minus sign. -/
theorem mem_signed {c : Char} {z : ℤ} (h : c ∈ signed z) : c = '-' ∨ IsDigit c := by
  cases z with
  | ofNat n => exact .inr (isDigit_of_mem_numeral h)
  | negSucc n =>
    rcases List.mem_cons.1 h with rfl | h
    · exact .inl rfl
    · exact .inr (isDigit_of_mem_numeral h)

end SearchClient.Decimal
