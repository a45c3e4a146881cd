import Mathlib.Data.Nat.Notation
import SearchClient.Decimal.Unsigned

/-!
# What bounded numerals are

The texts that are read as numbers within a bound: an optional plus sign and one
digit or more, as many zeros in front as one likes, with a value that is not beyond
the bound.  The bound is looked at after every digit; since more digits never make
the value smaller, that comes to the same as looking at the end.

## Main definitions

* `digitOf`, `valueFrom` — the numbers that a digit and some digits stand for.
* `Denotes` — texts of digits, with their number.

## Main results

* `readUnsigned_eq_ok_iff` — **the texts that are read, and the numbers read.**
-/

namespace SearchClient.Decimal

/-- The number that a digit stands for. -/
@[irreducible] def digitOf (c : Char) : ℕ := c.toNat - 48

/-- The number that digits stand for, read on from `acc`. -/
def valueFrom (acc : ℕ) : List Char → ℕ
  | [] => acc
  | c :: ds => valueFrom (10 * acc + digitOf c) ds

/-- A text of digits for `n`: an optional plus sign and one digit or more. -/
def Denotes (cs : List Char) (n : ℕ) : Prop :=
  ∃ ds, (cs = ds ∨ cs = '+' :: ds) ∧ ds ≠ [] ∧ (∀ c ∈ ds, c.isDigit = true) ∧ valueFrom 0 ds = n

@[simp] theorem valueFrom_nil (acc : ℕ) : valueFrom acc [] = acc := rfl

theorem valueFrom_cons (acc : ℕ) (c : Char) (ds : List Char) :
    valueFrom acc (c :: ds) = valueFrom (10 * acc + digitOf c) ds := rfl

/-- More digits do not make a number smaller. -/
theorem le_valueFrom (acc : ℕ) (ds : List Char) : acc ≤ valueFrom acc ds := by
  induction ds generalizing acc with
  | nil => exact Nat.le_refl acc
  | cons c ds ih =>
    rw [valueFrom_cons]
    exact Nat.le_trans (by omega) (ih _)

theorem isDigit_iff (c : Char) : c.isDigit = true ↔ 48 ≤ c.toNat ∧ c.toNat ≤ 57 := by
  simp [Char.isDigit, UInt32.le_iff_toNat_le]

theorem digitValue?_eq_ite (c : Char) :
    digitValue? c = if c.isDigit = true then some (digitOf c) else none := by
  unfold digitValue? digitOf
  by_cases h : c.isDigit = true
  · rw [if_pos h, if_pos ((isDigit_iff c).1 h)]
  · rw [if_neg h, if_neg fun hc => h ((isDigit_iff c).2 hc)]

theorem readDigits_eq_ok_iff {limit acc n : ℕ} {cs : List Char} (hacc : acc ≤ limit) :
    readDigits limit acc cs = .ok n ↔
      (∀ c ∈ cs, c.isDigit = true) ∧ valueFrom acc cs = n ∧ n ≤ limit := by
  induction cs generalizing acc with
  | nil =>
    simp only [readDigits, Except.ok.injEq, List.not_mem_nil, false_implies, implies_true,
      valueFrom_nil, true_and]
    exact ⟨fun h => ⟨h, h ▸ hacc⟩, fun h => h.1⟩
  | cons c cs ih =>
    rw [readDigits, digitValue?_eq_ite, List.forall_mem_cons, valueFrom_cons]
    by_cases hc : c.isDigit = true
    · have hle := le_valueFrom (10 * acc + digitOf c) cs
      simp only [hc, if_true, true_and]
      by_cases hlimit : limit < 10 * acc + digitOf c
      · -- the number is beyond the limit already
        rw [if_pos hlimit]
        refine iff_of_false (by simp) ?_
        rintro ⟨-, hvalue, hn⟩
        omega
      · rw [if_neg hlimit]
        exact ih (Nat.le_of_not_lt hlimit)
    · simp [hc]

/-- **The texts that are read as numbers within a limit, and the numbers read.** -/
theorem readUnsigned_eq_ok_iff {limit n : ℕ} {cs : List Char} :
    readUnsigned limit cs = .ok n ↔ Denotes cs n ∧ n ≤ limit := by
  have hplus : ('+').isDigit = false := rfl
  unfold readUnsigned
  split
  · exact iff_of_false (by simp) (by simp [Denotes])
  · -- a sign is no digit, and no digit follows it
    refine iff_of_false (by simp) ?_
    rintro ⟨⟨ds, rfl | h, hne, hdigits, -⟩, -⟩
    · exact absurd (hdigits '+' (by simp)) (by simp [hplus])
    · exact hne (List.cons.inj h).2.symm
  · next ds hne =>
    rw [readDigits_eq_ok_iff (Nat.zero_le limit), ← and_assoc]
    refine and_congr_left fun _ => ⟨?_, ?_⟩
    · rintro ⟨hdigits, hvalue⟩
      exact ⟨ds, .inr rfl, by simpa using hne, hdigits, hvalue⟩
    · rintro ⟨es, rfl | h, -, hdigits, hvalue⟩
      · exact absurd (hdigits '+' List.mem_cons_self) (by simp [hplus])
      · obtain rfl := (List.cons.inj h).2
        exact ⟨hdigits, hvalue⟩
  · next hne hsign hcons =>
    rw [readDigits_eq_ok_iff (Nat.zero_le limit), ← and_assoc]
    refine and_congr_left fun _ => ⟨?_, ?_⟩
    · rintro ⟨hdigits, hvalue⟩
      exact ⟨cs, .inl rfl, hne, hdigits, hvalue⟩
    · rintro ⟨es, rfl | h, -, hdigits, hvalue⟩
      · exact ⟨hdigits, hvalue⟩
      · exact absurd h (hcons es)

end SearchClient.Decimal
