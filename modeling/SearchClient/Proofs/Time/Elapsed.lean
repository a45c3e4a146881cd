import SearchClient.Proofs.Time.Epoch
import SearchClient.Value.Range

/-!
# Date-times of whole milliseconds

A date-time lies a number of nanoseconds after 1970-01-01T00:00:00, or before it: its day is
counted by years, months and days, and its time of day by hours, minutes and seconds.  Without
leap seconds no two date-times lie equally far from it, so the date-times of whole milliseconds
are the counts of milliseconds in another form, in the same order.

The limits of the counts are those of the years: the least count is the first millisecond of
the first year in which dates are kept, and the greatest is the last one of the last year.

## Main definitions

* `DateTime.elapsed` — the nanoseconds from 1970-01-01T00:00:00 to a date-time.
* `DateTime.Regular` — a date of the calendar with a time of day outside leap seconds.
* `DateTime.Aligned` — date-times of whole milliseconds, in the years in which dates are kept.

## Main results

* `Date.epochDay_eq_dayNumber` — the count of a date's day, by eras and by years and months.
* `Date.valid_iff_dayNumber` — the days of the years in which dates are kept.
* `DateTime.elapsed_injective` — **date-times apart from each other lie apart in time.**
* `dateTimeOfMillis_eq_ok_iff` — **what a count of milliseconds stands for.**
* `dateTimeOfMillis_order_isomorphism` — **counts in range are date-times of whole
  milliseconds**, one to one and in order.
-/

namespace SearchClient

/-! ### Days -/

namespace Date

/-- The count of 1 March of a year, by eras. -/
theorem marchStart_eq (y : ℤ) :
    marchStart y = y / 400 * 146097 + (365 * (y % 400) + y % 400 / 4 - y % 400 / 100) - 719468 := by
  unfold marchStart yearStart
  omega

/-- The day of a date, counted from 1 March before it. -/
theorem Proper.dayNumber_of_march {d : Date} (h : d.Proper) (hm : 2 < d.month) :
    d.dayNumber = marchStart d.year + (153 * (d.month - 3 : ℤ) + 2) / 5 + d.day - 1 := by
  obtain ⟨-, hle, -⟩ := h
  obtain ⟨m, hmonth⟩ : ∃ m, d.month = m + 3 := ⟨d.month - 3, by omega⟩
  have hmonths := monthsLength_of_march d.year (m := m) (by omega)
  have hyear := yearStart_succ d.year
  unfold daysInYear at hyear
  have hpred : d.month - 1 = m + 2 := by omega
  rw [dayNumber, hpred, hmonths, marchStart, hmonth]
  push_cast
  omega

/-- In January and February 1 March before a date lies in the year before. -/
theorem Proper.dayNumber_of_winter {d : Date} (h : d.Proper) (hm : d.month ≤ 2) :
    d.dayNumber = marchStart (d.year - 1) + (153 * (d.month + 9 : ℤ) + 2) / 5 + d.day - 1 := by
  obtain ⟨hpos, -⟩ := h
  rw [dayNumber, marchStart, Int.sub_add_cancel]
  obtain hmonth | hmonth : d.month = 1 ∨ d.month = 2 := by omega
  · have hmonths : monthsLength d.year (1 - 1) = 0 := rfl
    rw [hmonth, hmonths]
    push_cast
    omega
  · have hmonths : monthsLength d.year (2 - 1) = 31 := rfl
    rw [hmonth, hmonths]
    push_cast
    omega

/-- **The count of a date's day by eras is the count by years, months and days.** -/
theorem epochDay_eq_dayNumber {d : Date} (h : d.Proper) : d.epochDay = d.dayNumber := by
  by_cases hm : d.month ≤ 2
  · rw [h.dayNumber_of_winter hm, marchStart_eq]
    simp only [epochDay, if_pos hm, daysPerEra, epochOffset]
    omega
  · rw [h.dayNumber_of_march (by omega), marchStart_eq]
    simp only [epochDay, if_neg hm, daysPerEra, epochOffset]
    omega

/-- A date lies in a year or after it exactly if its day does. -/
theorem Proper.le_year_iff {d : Date} (h : d.Proper) {y : ℤ} :
    y ≤ d.year ↔ yearStart y ≤ d.dayNumber := by
  constructor
  · intro hle
    exact (yearStart_le_yearStart hle).trans h.yearStart_le
  · intro hle
    by_contra hlt
    have hnext : yearStart (d.year + 1) ≤ yearStart y := yearStart_le_yearStart (by omega)
    have hday := h.dayNumber_lt
    omega

/-- **The days of the years in which dates are kept.** -/
theorem valid_iff_dayNumber {d : Date} (h : d.Proper) :
    d.Valid ↔ -96465292 ≤ d.dayNumber ∧ d.dayNumber < 95026237 := by
  have hfirst : yearStart (-262143) = -96465292 := by decide +kernel
  have hlast : yearStart 262143 = 95026237 := by decide +kernel
  have hmin := h.le_year_iff (y := -262143)
  have hmax := h.le_year_iff (y := 262143)
  rw [hfirst] at hmin
  rw [hlast] at hmax
  obtain ⟨h1, h12, hday, hdays⟩ := h
  unfold Valid minYear maxYear
  constructor
  · rintro ⟨hlow, hhigh, -⟩
    omega
  · rintro ⟨hlow, hhigh⟩
    exact ⟨hmin.2 hlow, by omega, h1, h12, hday, hdays⟩

end Date

/-! ### Time since 1970 -/

namespace DateTime

/-- The nanoseconds from 1970-01-01T00:00:00 to a date-time. -/
def elapsed (t : DateTime) : ℤ :=
  (t.date.dayNumber * 86400 + (t.hour * 3600 + t.minute * 60 + t.second : ℕ)) * 1000000000 + t.nano

/-- A date of the calendar, in any year, with a time of day outside leap seconds. -/
structure Regular (t : DateTime) : Prop where
  /-- The calendar has the date. -/
  date : t.date.Proper
  hour : t.hour < 24
  minute : t.minute < 60
  second : t.second < 60
  /-- It is in no leap second. -/
  nano : t.nano < 1000000000

/-- A date-time of whole milliseconds outside leap seconds, in a year in which dates are
kept. -/
structure Aligned (t : DateTime) : Prop where
  /-- The calendar and the clock have it. -/
  valid : t.Valid
  /-- It is in no leap second. -/
  regular : t.nano < 1000000000
  /-- The nanoseconds make up whole milliseconds. -/
  whole : t.nano % 1000000 = 0

/-- **Date-times apart from each other lie apart in time.** -/
theorem elapsed_injective {s t : DateTime} (hs : s.Regular) (ht : t.Regular)
    (h : s.elapsed = t.elapsed) : s = t := by
  obtain ⟨hsdate, hshour, hsminute, hssecond, hsnano⟩ := hs
  obtain ⟨htdate, hthour, htminute, htsecond, htnano⟩ := ht
  unfold elapsed at h
  -- the time of day is less than a day, so the days are equal
  have hday : s.date.dayNumber = t.date.dayNumber := by omega
  have hdate : s.date = t.date := Date.dayNumber_injective hsdate htdate hday
  obtain ⟨d, hour, minute, second, nano⟩ := s
  obtain ⟨d', hour', minute', second', nano'⟩ := t
  simp only at h hday hdate hshour hsminute hssecond hsnano hthour htminute htsecond htnano
  rw [DateTime.mk.injEq]
  exact ⟨hdate, by omega, by omega, by omega, by omega⟩

theorem regular_ofEpochMillis (n : ℤ) : (ofEpochMillis n).Regular := by
  refine ⟨Date.proper_ofEpochDay _, ?_, ?_, ?_, ?_⟩
  · show (n % millisPerDay).toNat / 3600000 < 24
    unfold millisPerDay
    omega
  · exact Nat.mod_lt _ (by omega)
  · exact Nat.mod_lt _ (by omega)
  · show (n % millisPerDay).toNat % 1000 * 1000000 < 1000000000
    omega

/-- **The date-time of a count of milliseconds lies as many milliseconds away.** -/
theorem elapsed_ofEpochMillis (n : ℤ) : (ofEpochMillis n).elapsed = n * 1000000 := by
  simp only [elapsed, ofEpochMillis, Date.dayNumber_ofEpochDay, millisPerDay]
  omega

/-- **A count lies within the limits exactly if dates are kept in its year.** -/
theorem valid_ofEpochMillis_iff {n : ℤ} :
    (ofEpochMillis n).date.Valid ↔ -8334601228800000 ≤ n ∧ n ≤ 8210266876799999 := by
  have hday : (ofEpochMillis n).date.dayNumber = n / 86400000 := Date.dayNumber_ofEpochDay _
  rw [Date.valid_iff_dayNumber (regular_ofEpochMillis n).date, hday]
  omega

theorem Aligned.isRegular {t : DateTime} (h : t.Aligned) : t.Regular := by
  obtain ⟨⟨⟨-, -, hdate⟩, hhour, hminute, hsecond, -⟩, hnano, -⟩ := h
  exact ⟨hdate, hhour, hminute, hsecond, hnano⟩

theorem aligned_ofEpochMillis {n : ℤ} (h : -8334601228800000 ≤ n ∧ n ≤ 8210266876799999) :
    (ofEpochMillis n).Aligned := by
  have hregular := regular_ofEpochMillis n
  refine ⟨⟨valid_ofEpochMillis_iff.2 h, hregular.hour, hregular.minute, hregular.second, ?_⟩,
    hregular.nano, ?_⟩
  · have hnano := hregular.nano
    split <;> omega
  · show (n % millisPerDay).toNat % 1000 * 1000000 % 1000000 = 0
    exact Nat.mul_mod_left _ _

/-- The count of a date-time of whole milliseconds. -/
theorem Aligned.elapsed_eq {t : DateTime} (h : t.Aligned) : t.elapsed = t.epochMillis * 1000000 := by
  have hwhole := h.whole
  have hday := Date.epochDay_eq_dayNumber h.isRegular.date
  unfold elapsed epochMillis millisPerDay
  rw [hday]
  omega

/-- A date-time of whole milliseconds is that of its count. -/
theorem Aligned.eq_ofEpochMillis {t : DateTime} (h : t.Aligned) {n : ℤ}
    (hn : t.elapsed = n * 1000000) : t = ofEpochMillis n := by
  apply elapsed_injective h.isRegular (regular_ofEpochMillis n)
  rw [hn, elapsed_ofEpochMillis]

end DateTime

/-! ### Counts of milliseconds -/

open DateTime

/-- **What a count of milliseconds stands for**: the date-time of whole milliseconds that lies
as many milliseconds away from 1970-01-01T00:00:00. -/
theorem dateTimeOfMillis_eq_ok_iff {n : ℤ} {t : DateTime} :
    dateTimeOfMillis n = .ok t ↔ t.Aligned ∧ t.elapsed = n * 1000000 := by
  unfold dateTimeOfMillis ofEpochMillis? minEpochMillis maxEpochMillis
  by_cases h : -8334601228800000 ≤ n ∧ n ≤ 8210266876799999
  · rw [if_pos h]
    simp only [Except.ok.injEq]
    constructor
    · rintro rfl
      exact ⟨aligned_ofEpochMillis h, elapsed_ofEpochMillis n⟩
    · rintro ⟨ht, hn⟩
      exact (ht.eq_ofEpochMillis hn).symm
  · rw [if_neg h]
    refine iff_of_false (by simp) ?_
    rintro ⟨ht, hn⟩
    -- the date-time would be in a year in which no dates are kept
    have hdate := ht.valid.1
    rw [ht.eq_ofEpochMillis hn, valid_ofEpochMillis_iff] at hdate
    exact h hdate

theorem dateTimeOfMillis_eq_error_iff {n : ℤ} {e : ValueError} :
    dateTimeOfMillis n = .error e ↔
      e = .timestampOutOfRange n ∧ ¬(-8334601228800000 ≤ n ∧ n ≤ 8210266876799999) := by
  unfold dateTimeOfMillis ofEpochMillis? minEpochMillis maxEpochMillis
  by_cases h : -8334601228800000 ≤ n ∧ n ≤ 8210266876799999
  · rw [if_pos h]
    simp [h]
  · rw [if_neg h]
    simp only [Except.error.injEq, h, not_false_iff, and_true]
    exact eq_comm

theorem exists_dateTimeOfMillis_iff {n : ℤ} :
    (∃ t, dateTimeOfMillis n = .ok t) ↔ -8334601228800000 ≤ n ∧ n ≤ 8210266876799999 := by
  constructor
  · rintro ⟨t, ht⟩
    by_contra h
    rw [dateTimeOfMillis_eq_error_iff.2 ⟨rfl, h⟩] at ht
    cases ht
  · intro h
    exact ⟨_, dateTimeOfMillis_eq_ok_iff.2 ⟨aligned_ofEpochMillis h, elapsed_ofEpochMillis n⟩⟩

/-- A date-time is that of one count, its own, exactly if it is one of whole milliseconds. -/
theorem aligned_iff_existsUnique {t : DateTime} :
    t.Aligned ↔ ∃! n, dateTimeOfMillis n = .ok t := by
  constructor
  · intro h
    refine ⟨t.epochMillis, dateTimeOfMillis_eq_ok_iff.2 ⟨h, h.elapsed_eq⟩, fun n hn => ?_⟩
    have helapsed := (dateTimeOfMillis_eq_ok_iff.1 hn).2
    rw [h.elapsed_eq] at helapsed
    omega
  · rintro ⟨n, hn, -⟩
    exact (dateTimeOfMillis_eq_ok_iff.1 hn).1

/-- Later counts stand for later date-times. -/
theorem dateTimeOfMillis_lt_iff {m n : ℤ} {s t : DateTime} (hs : dateTimeOfMillis m = .ok s)
    (ht : dateTimeOfMillis n = .ok t) : s < t ↔ m < n := by
  obtain ⟨hsa, hse⟩ := dateTimeOfMillis_eq_ok_iff.1 hs
  obtain ⟨hta, hte⟩ := dateTimeOfMillis_eq_ok_iff.1 ht
  rw [hsa.eq_ofEpochMillis hse, hta.eq_ofEpochMillis hte, ofEpochMillis_lt_ofEpochMillis_iff]

/-- **Counts in range are date-times of whole milliseconds, one to one and in order.**  A count
of milliseconds stands for a date-time if it lies within the limits, and is turned down
otherwise.  The date-time is one of the calendar and the clock, of whole milliseconds, and lies
exactly as many milliseconds away from 1970-01-01T00:00:00; it is later the greater the count
is; and each such date-time is that of one count. -/
theorem dateTimeOfMillis_order_isomorphism :
    (∀ n, (∃ t, dateTimeOfMillis n = .ok t) ↔ -8334601228800000 ≤ n ∧ n ≤ 8210266876799999) ∧
    (∀ n e, dateTimeOfMillis n = .error e ↔
      e = .timestampOutOfRange n ∧ ¬(-8334601228800000 ≤ n ∧ n ≤ 8210266876799999)) ∧
    (∀ n t, dateTimeOfMillis n = .ok t ↔ t.Aligned ∧ t.elapsed = n * 1000000) ∧
    (∀ m n s t, dateTimeOfMillis m = .ok s → dateTimeOfMillis n = .ok t → (s < t ↔ m < n)) ∧
    ∀ t : DateTime, t.Aligned ↔ ∃! n, dateTimeOfMillis n = .ok t :=
  ⟨fun _ => exists_dateTimeOfMillis_iff, fun _ _ => dateTimeOfMillis_eq_error_iff,
    fun _ _ => dateTimeOfMillis_eq_ok_iff, fun _ _ _ _ => dateTimeOfMillis_lt_iff,
    fun _ => aligned_iff_existsUnique⟩

/-- The last millisecond before 1970 and the first one of 1970, and the first count beyond the
last year. -/
theorem dateTimeOfMillis_order_isomorphism_epoch :
    dateTimeOfMillis (-1) = .ok ⟨⟨1969, 12, 31⟩, 23, 59, 59, 999000000⟩ ∧
      dateTimeOfMillis 0 = .ok ⟨⟨1970, 1, 1⟩, 0, 0, 0, 0⟩ ∧
      (⟨⟨1969, 12, 31⟩, 23, 59, 59, 999000000⟩ : DateTime) < ⟨⟨1970, 1, 1⟩, 0, 0, 0, 0⟩ ∧
      dateTimeOfMillis 8210266876800000 = .error (.timestampOutOfRange 8210266876800000) := by
  obtain ⟨-, herror, -, horder, -⟩ := dateTimeOfMillis_order_isomorphism
  have hbefore : dateTimeOfMillis (-1) = .ok ⟨⟨1969, 12, 31⟩, 23, 59, 59, 999000000⟩ := rfl
  have hepoch : dateTimeOfMillis 0 = .ok ⟨⟨1970, 1, 1⟩, 0, 0, 0, 0⟩ := rfl
  refine ⟨hbefore, hepoch, ?_, ?_⟩
  · exact (horder _ _ _ _ hbefore hepoch).2 (by decide)
  · exact (herror _ _).2 ⟨rfl, by decide⟩

end SearchClient
