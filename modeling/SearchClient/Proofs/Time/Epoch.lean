import SearchClient.Proofs.Time.Era
import SearchClient.Time.Epoch

/-!
# Milliseconds and date-times

Date-times are compared field by field, counts of milliseconds as numbers.  That
the two orders agree comes down to the dates: a later day has a later date, and
on one day the clock counts on.

## Main definitions

* `clockFields` — the fields of a date and a time of day, the largest unit first.

## Main results

* `clockFields_lt_iff`, `DateTime.lt_iff` — the order of fields, and of date-times, by dates
  and times of day.
* `DateTime.ofEpochMillis_lt_ofEpochMillis_iff` — **a later count of milliseconds
  is a later date-time.**
-/

namespace SearchClient

/-- The fields of a date and a time of day, the largest unit first; the last one counts
parts of a second. -/
def clockFields (d : Date) (hour minute second part : ℕ) : List ℤ :=
  [d.year, d.month, d.day, hour, minute, second, part]

section Fields

variable {d e : Date} {h mi se n h' mi' se' n' : ℕ}

/-- Fields are ordered by the dates, and on one date by the times. -/
theorem clockFields_lt_iff :
    clockFields d h mi se n < clockFields e h' mi' se' n' ↔
      d.Before e ∨ d = e ∧ (h < h' ∨ h = h' ∧
        (mi < mi' ∨ mi = mi' ∧ (se < se' ∨ se = se' ∧ n < n'))) := by
  obtain ⟨y, m, k⟩ := d
  obtain ⟨y', m', k'⟩ := e
  simp only [clockFields, List.cons_lt_cons_iff, List.not_lt_nil, and_false, or_false,
    Int.ofNat_lt, Int.natCast_inj, Date.Before, Date.mk.injEq]
  constructor
  · omega
  · omega

theorem clockFields_inj (heq : clockFields d h mi se n = clockFields e h' mi' se' n') :
    d = e ∧ h = h' ∧ mi = mi' ∧ se = se' ∧ n = n' := by
  obtain ⟨y, m, k⟩ := d
  obtain ⟨y', m', k'⟩ := e
  simp only [clockFields, List.cons.injEq, Int.natCast_inj, and_true] at heq
  obtain ⟨rfl, rfl, rfl, hclock⟩ := heq
  exact ⟨rfl, hclock⟩

end Fields

namespace DateTime

/-- Date-times are ordered by their dates, and on one date by their times. -/
theorem lt_iff {s t : DateTime} :
    s < t ↔ s.date.Before t.date ∨ s.date = t.date ∧ (s.hour < t.hour ∨ s.hour = t.hour ∧
      (s.minute < t.minute ∨ s.minute = t.minute ∧
        (s.second < t.second ∨ s.second = t.second ∧ s.nano < t.nano))) :=
  clockFields_lt_iff

/-- The clock counts on: a later millisecond of a day has later fields. -/
theorem clock_lt_iff {r s : ℕ} :
    (r / 3600000 < s / 3600000 ∨ r / 3600000 = s / 3600000 ∧
      (r / 60000 % 60 < s / 60000 % 60 ∨ r / 60000 % 60 = s / 60000 % 60 ∧
        (r / 1000 % 60 < s / 1000 % 60 ∨ r / 1000 % 60 = s / 1000 % 60 ∧
          r % 1000 * 1000000 < s % 1000 * 1000000))) ↔ r < s := by
  -- an hour has 60 minutes and a minute 60 seconds
  have hour (n : ℕ) : n / 3600000 = n / 60000 / 60 := (Nat.div_div_eq_div_mul n 60000 60).symm
  have minute (n : ℕ) : n / 60000 = n / 1000 / 60 := (Nat.div_div_eq_div_mul n 1000 60).symm
  rw [hour, hour, minute, minute]
  constructor
  · omega
  · omega

/-- **A later count of milliseconds is a later date-time.** -/
theorem ofEpochMillis_lt_ofEpochMillis_iff {a b : ℤ} :
    ofEpochMillis a < ofEpochMillis b ↔ a < b := by
  rw [lt_iff]
  simp only [ofEpochMillis, millisPerDay, Date.before_ofEpochDay_iff,
    Date.ofEpochDay_injective.eq_iff, clock_lt_iff]
  omega

/-- Milliseconds do not make up a leap second. -/
theorem isLeapSecond_ofEpochMillis (n : ℤ) : (ofEpochMillis n).isLeapSecond = false := by
  unfold isLeapSecond ofEpochMillis
  simp only [decide_eq_false_iff_not]
  omega

end DateTime

end SearchClient
