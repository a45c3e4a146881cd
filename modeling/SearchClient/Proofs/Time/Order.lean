import Mathlib.Data.List.Lex
import Mathlib.Data.String.Basic
import SearchClient.Proofs.Time.Stamp

/-!
# The order of date-times and of their texts

Date-times are ordered field by field, to the nanosecond, and so are stamps, to the
millisecond.  A timestamp shows a date-time cut to milliseconds; a leap second, which
is counted on the nanoseconds of second 59, is shown as second 60.  Neither puts two
date-times out of order.  As texts, timestamps are in order too while the years have
four digits.

## Main definitions

* `DateTime.cut` — what a timestamp shows of a date-time.
* `Stamp.fields` — the fields of a stamp, the largest unit first; stamps are ordered by
  them.

## Main results

* `DateTime.instLinearOrder` — any two date-times are comparable.
* `DateTime.timestamp_eq_chars_cut` — **a timestamp is the text of the cut fields.**
* `DateTime.cut_le_cut` — **cutting keeps date-times in order.**
* `Stamp.chars_le_chars` — **so does writing, in the years with four digits.**
-/

namespace SearchClient

open Decimal

/-! ### Date-times -/

namespace DateTime

theorem fields_injective : Function.Injective fields := by
  intro s t h
  obtain ⟨d, hour, minute, second, nano⟩ := s
  obtain ⟨hdate, hhour, hminute, hsecond, hnano⟩ := clockFields_inj h
  rw [DateTime.mk.injEq]
  exact ⟨hdate, hhour, hminute, hsecond, hnano⟩

theorem le_iff_fields {s t : DateTime} : s ≤ t ↔ s.fields ≤ t.fields :=
  not_lt (a := t.fields)

/-- The order of date-times is that of their fields, so it is total. -/
instance instLinearOrder : LinearOrder DateTime where
  le_refl s := le_iff_fields.2 le_rfl
  le_trans r s t h h' := le_iff_fields.2 ((le_iff_fields.1 h).trans (le_iff_fields.1 h'))
  le_antisymm s t h h' :=
    fields_injective ((le_iff_fields.1 h).antisymm (le_iff_fields.1 h'))
  le_total s t := by
    rw [le_iff_fields, le_iff_fields]
    exact le_total s.fields t.fields
  lt_iff_le_not_ge s t := by
    rw [le_iff_fields, le_iff_fields]
    exact lt_iff_le_not_ge (a := s.fields)
  toDecidableLE := inferInstance
  toDecidableEq := inferInstance
  toDecidableLT := inferInstance

theorem earlier_eq_min (s t : DateTime) : earlier s t = min s t := by
  unfold earlier
  rw [min_comm, min_def_lt]

theorem later_eq_max (s t : DateTime) : later s t = max s t := by
  unfold later
  rw [max_def_lt]

theorem Valid.nano_lt {t : DateTime} (h : t.Valid) : t.nano < 2000000000 := by
  obtain ⟨-, -, -, -, hnano⟩ := h
  split at hnano <;> omega

/-- Only second 59 has room for a leap second. -/
theorem Valid.second_of_leap {t : DateTime} (h : t.Valid) (hleap : 1000000000 ≤ t.nano) :
    t.second = 59 := by
  obtain ⟨-, -, -, -, hnano⟩ := h
  by_contra hne
  rw [if_neg hne] at hnano
  omega

/-- What a timestamp shows of a date-time: its own fields, and of the fraction the whole
milliseconds; a leap second counts as second 60. -/
def cut (t : DateTime) : Stamp :=
  ⟨t.date, t.hour, t.minute, if 1000000000 ≤ t.nano then 60 else t.second,
    t.nano % 1000000000 / 1000000⟩

theorem stamp_eq_cut {t : DateTime} (h : t.Valid) : t.stamp = t.cut := by
  have hnano := h.nano_lt
  unfold stamp cut clockSecond fraction isLeapSecond
  by_cases hleap : 1000000000 ≤ t.nano
  · have hfraction : t.nano - 1000000000 = t.nano % 1000000000 := by omega
    simp only [hleap, decide_true, if_true, h.second_of_leap hleap, hfraction]
  · have hfraction : t.nano % 1000000000 = t.nano := Nat.mod_eq_of_lt (by omega)
    simp only [hleap, decide_false, Bool.false_eq_true, if_false, hfraction]

/-- **A timestamp is the text of the cut fields.** -/
theorem timestamp_eq_chars_cut {t : DateTime} (h : t.Valid) : t.timestamp = t.cut.chars := by
  rw [timestamp_eq, stamp_eq_cut h]

theorem fits_cut {t : DateTime} (h : t.Valid) : t.cut.Fits := by
  obtain ⟨⟨-, -, -, hmonth, -, hday⟩, hhour, hminute, hsecond, -⟩ := h
  have hdays := daysInMonth_le t.date.year t.date.month
  have hmonth' : t.date.month < 100 := by omega
  have hday' : t.date.day < 100 := by omega
  have hclock : (if 1000000000 ≤ t.nano then 60 else t.second) < 100 := by
    split <;> omega
  have hmilli : t.nano % 1000000000 / 1000000 < 1000 := by omega
  exact ⟨hmonth', hday', Nat.lt_trans hhour (by omega), Nat.lt_trans hminute (by omega), hclock,
    hmilli⟩

end DateTime

/-! ### Stamps -/

namespace Stamp

/-- The fields of a stamp, the largest unit first. -/
def fields (t : Stamp) : List ℤ := clockFields t.date t.hour t.minute t.second t.milli

theorem fields_injective : Function.Injective fields := by
  intro s t h
  obtain ⟨d, hour, minute, second, milli⟩ := s
  obtain ⟨hdate, hhour, hminute, hsecond, hmilli⟩ := clockFields_inj h
  rw [Stamp.mk.injEq]
  exact ⟨hdate, hhour, hminute, hsecond, hmilli⟩

/-- Stamps are ordered field by field. -/
instance : LinearOrder Stamp := LinearOrder.lift' fields fields_injective

/-- Stamps are ordered by their dates, and on one date by their times. -/
theorem lt_iff {s t : Stamp} :
    s < t ↔ s.date.Before t.date ∨ s.date = t.date ∧ (s.hour < t.hour ∨ s.hour = t.hour ∧
      (s.minute < t.minute ∨ s.minute = t.minute ∧
        (s.second < t.second ∨ s.second = t.second ∧ s.milli < t.milli))) :=
  clockFields_lt_iff

end Stamp

/-- **Cutting keeps date-times in order**: a leap second comes after all of second 59,
and before the next minute. -/
theorem DateTime.cut_le_cut {s t : DateTime} (hs : s.Valid) (ht : t.Valid) (h : s ≤ t) :
    s.cut ≤ t.cut := by
  have hsnano := hs.nano_lt
  have htnano := ht.nano_lt
  have hsleap := hs.second_of_leap
  have htleap := ht.second_of_leap
  obtain ⟨-, -, -, htsecond, -⟩ := ht
  -- stamps out of order would belong to date-times out of order
  rw [← not_lt]
  intro hcut
  apply h
  rw [Stamp.lt_iff] at hcut
  rw [DateTime.lt_iff]
  rcases hcut with hbefore | ⟨hdate, hclock⟩
  · exact Or.inl hbefore
  · refine Or.inr ⟨hdate, ?_⟩
    simp only [cut] at hclock
    split_ifs at hclock <;> omega

/-! ### Texts -/

/-- The text of a year with four digits. -/
theorem renderYear_of_le {y : ℤ} (h : 0 ≤ y ∧ y ≤ 9999) : renderYear y = padded 4 y.toNat :=
  if_pos h

namespace Stamp

theorem length_chars {t : Stamp} (h : t.Fits) (hyear : 0 ≤ t.date.year ∧ t.date.year ≤ 9999) :
    t.chars.length = 24 := by
  obtain ⟨hmonth, hday, hhour, hminute, hsecond, hmilli⟩ := h
  have hy : t.date.year.toNat < 10 ^ (3 + 1) := by omega
  have hms : t.milli < 10 ^ (2 + 1) := hmilli
  have htwo {n : ℕ} (hn : n < 100) : (padded 2 n).length = 2 := length_padded (k := 1) hn
  simp only [chars, Date.render, clock, renderYear_of_le hyear, List.length_append,
    List.length_cons, List.length_nil, length_padded hy, length_padded hms, htwo hmonth,
    htwo hday, htwo hhour, htwo hminute, htwo hsecond]

/-- In the years with four digits, texts of stamps are ordered like the stamps. -/
theorem chars_lt_chars_iff {s t : Stamp} (hs : s.Fits) (ht : t.Fits)
    (hsyear : 0 ≤ s.date.year ∧ s.date.year ≤ 9999)
    (htyear : 0 ≤ t.date.year ∧ t.date.year ≤ 9999) : s.chars < t.chars ↔ s < t := by
  obtain ⟨hsmonth, hsday, hshour, hsminute, hssecond, hsmilli⟩ := hs
  obtain ⟨htmonth, htday, hthour, htminute, htsecond, htmilli⟩ := ht
  have hsy : s.date.year.toNat < 10 ^ (3 + 1) := by omega
  have hty : t.date.year.toNat < 10 ^ (3 + 1) := by omega
  have hsms : s.milli < 10 ^ (2 + 1) := hsmilli
  have htms : t.milli < 10 ^ (2 + 1) := htmilli
  have htwo {m n : ℕ} (hm : m < 100) (hn : n < 100) := field_lt_field_iff (k := 1) hm hn
  have hlt : s.date.year.toNat < t.date.year.toNat ↔ s.date.year < t.date.year := by omega
  have heq : s.date.year.toNat = t.date.year.toNat ↔ s.date.year = t.date.year := by omega
  rw [Stamp.lt_iff]
  -- every field is followed by a mark, and the field decides before what follows
  simp only [chars, Date.render, clock, renderYear_of_le hsyear, renderYear_of_le htyear,
    List.append_assoc, List.cons_append, field_lt_field_iff hsy hty, htwo hsmonth htmonth,
    htwo hsday htday, htwo hshour hthour, htwo hsminute htminute, htwo hssecond htsecond,
    field_lt_field_iff hsms htms, hlt, heq, List.not_lt_nil, and_false, or_false, Date.Before]
  obtain ⟨⟨y, m, d⟩, h, mi, se, n⟩ := s
  obtain ⟨⟨y', m', d'⟩, h', mi', se', n'⟩ := t
  simp only [Date.mk.injEq]
  constructor
  · omega
  · omega

/-- **In the years with four digits, stamps in order have texts in order.** -/
theorem chars_le_chars {s t : Stamp} (hs : s.Fits) (ht : t.Fits)
    (hsyear : 0 ≤ s.date.year ∧ s.date.year ≤ 9999)
    (htyear : 0 ≤ t.date.year ∧ t.date.year ≤ 9999) (h : s ≤ t) :
    String.ofList s.chars ≤ String.ofList t.chars := by
  rw [String.le_iff_toList_le, String.toList_ofList, String.toList_ofList, ← not_lt]
  intro hlt
  rw [chars_lt_chars_iff ht hs htyear hsyear] at hlt
  exact absurd h (not_le_of_gt hlt)

end Stamp

end SearchClient
