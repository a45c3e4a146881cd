import SearchClient.Proofs.Time.Calendar

/-!
# Days of an era

An era of 400 years has four centuries, the last of them with a day more.  A
century has twenty-five spans of four years, the last of them with a day less
unless the century is the last of its era.  The last year of a span is the one
with a leap day, which is its last day when years begin in March.

A day of an era is split up that way here, and the divisions that find its year
are shown to find the year of the split.

## Main definitions

* `EraDay` — a day of an era, by its century, span of four years, year and day.
* `marchStart`, `marchDate` — 1 March of a year, and the date a number of days
  after it.

## Main results

* `EraDay.yearOfEra_eq` — the divisions find the year.
* `dayNumber_marchDate`, `proper_marchDate` — days after 1 March are counted right.
* `Date.dayNumber_ofEpochDay`, `Date.proper_ofEpochDay` — **the date of a day is a
  date of the calendar, and its day is that day.**
-/

namespace SearchClient

/-! ### The split of a day -/

/-- The day `n` of an era by its century, the span of four years in the century,
the year of the span, and the day of the year, which begins in March. -/
structure EraDay (n : ℕ) where
  /-- The century of the era. -/
  century : ℕ
  /-- The span of four years of the century. -/
  span : ℕ
  /-- The year of the span. -/
  year : ℕ
  /-- The day of the year. -/
  day : ℕ
  century_le : century ≤ 3
  span_le : span ≤ 24
  year_le : year ≤ 3
  day_le : day ≤ 365
  eq_sum : n = 36524 * century + 1461 * span + 365 * year + day
  leap : day = 365 → year = 3 ∧ (span = 24 → century = 3)

namespace EraDay

theorem nonempty {n : ℕ} (h : n < 146097) : Nonempty (EraDay n) := by
  -- the century and the day of it: the last century takes the era's last day
  obtain ⟨c, r, hc, hr, hn, hlast⟩ : ∃ c r, c ≤ 3 ∧ r ≤ 36524 ∧ n = 36524 * c + r ∧
      (r = 36524 → c = 3) := by
    rcases Nat.lt_or_ge n 109572 with hlt | hge
    · exact ⟨n / 36524, n % 36524, by omega, by omega, by omega, by omega⟩
    · exact ⟨3, n - 109572, by omega, by omega, by omega, by omega⟩
  -- the year of the span and the day of it: the last year takes the span's last day
  obtain ⟨y, t, hy, ht, hs, hleap⟩ : ∃ y t, y ≤ 3 ∧ t ≤ 365 ∧ r % 1461 = 365 * y + t ∧
      (t = 365 → y = 3) := by
    rcases Nat.lt_or_ge (r % 1461) 1095 with hlt | hge
    · exact ⟨r % 1461 / 365, r % 1461 % 365, by omega, by omega, by omega, by omega⟩
    · exact ⟨3, r % 1461 - 1095, by omega, by omega, by omega, by omega⟩
  exact ⟨{ century := c, span := r / 1461, year := y, day := t
           century_le := hc, span_le := by omega, year_le := hy, day_le := ht
           eq_sum := by omega, leap := by omega }⟩

variable {n : ℕ} (p : EraDay n)

/-- The year of the era. -/
def yearOfEra : ℕ := 100 * p.century + 4 * p.span + p.year

/-- Division by the days of a century finds the century, except on the era's last
day. -/
theorem div_century : n / 36524 = p.century + n / 146096 := by
  obtain ⟨c, q, y, t, hc, hq, hy, ht, hn, hleap⟩ := p
  show n / 36524 = c + n / 146096
  -- a century has 36524 days, and only the era's last day is one more
  have hlt : 1461 * q + 365 * y + t < 36524 ∨ n = 146096 := by omega
  rcases hlt with hlt | hlt
  · have hlast : n / 146096 = 0 := by omega
    rw [hlast, hn, Nat.add_assoc, Nat.add_assoc, ← Nat.add_assoc (1461 * q)]
    omega
  · omega

/-- The days that leap days have added are taken away, and whole years are left. -/
theorem yearOfEra_eq : (n - n / 1460 + n / 36524 - n / 146096) / 365 = p.yearOfEra := by
  rw [p.div_century]
  obtain ⟨c, q, y, t, hc, hq, hy, ht, hn, hleap⟩ := p
  show (n - n / 1460 + (c + n / 146096) - n / 146096) / 365 = 100 * c + 4 * q + y
  -- a span's leap day is taken away when 1460 of its days are over, `e` days too early
  obtain ⟨e, hquarter, he, hrest⟩ : ∃ e, n / 1460 = 25 * c + q + e ∧ e ≤ t ∧ t - e ≤ 364 := by
    refine ⟨n / 1460 - (25 * c + q), ?_, ?_, ?_⟩
    · omega
    · omega
    · omega
  rw [hquarter]
  generalize n / 146096 = f
  -- whole years are left, and less than a year
  have hnum : n - (25 * c + q + e) + (c + f) - f = 365 * (100 * c + 4 * q + y) + (t - e) := by
    clear hquarter hleap hrest
    omega
  rw [hnum]
  omega

/-- The days before the year. -/
theorem eq_day_add :
    n = 365 * p.yearOfEra + p.yearOfEra / 4 - p.yearOfEra / 100 + p.day := by
  obtain ⟨c, q, y, t, hc, hq, hy, ht, hn, hleap⟩ := p
  show n = 365 * (100 * c + 4 * q + y) + (100 * c + 4 * q + y) / 4
    - (100 * c + 4 * q + y) / 100 + t
  have hfour : (100 * c + 4 * q + y) / 4 = 25 * c + q := by omega
  have hhundred : (100 * c + 4 * q + y) / 100 = c := by omega
  rw [hfour, hhundred, hn]
  omega

theorem yearOfEra_lt : p.yearOfEra < 400 := by
  have hc := p.century_le
  have hq := p.span_le
  have hy := p.year_le
  unfold yearOfEra
  omega

/-- The leap day is there in leap years only. -/
theorem day_lt (era : ℤ) : p.day < daysInYear (era * 400 + p.yearOfEra + 1) := by
  obtain ⟨c, q, y, t, hc, hq, hy, ht, hn, hleap⟩ := p
  show t < daysInYear (era * 400 + (100 * c + 4 * q + y : ℕ) + 1)
  unfold daysInYear leapDay
  split
  · omega
  · -- the year is no leap year, so the day is not its 366th
    next h =>
    rw [isLeapYear_iff] at h
    omega

end EraDay

/-! ### Days after 1 March -/

/-- The count of 1 March of a year: 306 days are left of the year. -/
def marchStart (y : ℤ) : ℤ := yearStart (y + 1) - 306

/-- The date `t` days after 1 March of the year `y`. -/
def marchDate (y : ℤ) (t : ℕ) : Date :=
  let fromMarch := (5 * t + 2) / 153
  let month := if fromMarch < 10 then fromMarch + 3 else fromMarch - 9
  { year := y + if month ≤ 2 then 1 else 0
    month := month
    day := t - (153 * fromMarch + 2) / 5 + 1 }

/-- The date lies in one of the ten months from March on, or in January or February
of the next year. -/
theorem exists_marchDate {t : ℕ} (y : ℤ) (ht : t ≤ 365) :
    ∃ m d, t = (153 * m + 2) / 5 + d ∧ d < (153 * (m + 1) + 2) / 5 - (153 * m + 2) / 5 ∧
      (m ≤ 9 ∧ marchDate y t = ⟨y, m + 3, d + 1⟩ ∨
        m = 10 ∧ marchDate y t = ⟨y + 1, 1, d + 1⟩ ∨
        m = 11 ∧ marchDate y t = ⟨y + 1, 2, d + 1⟩) := by
  refine ⟨(5 * t + 2) / 153, t - (153 * ((5 * t + 2) / 153) + 2) / 5, by omega, by omega, ?_⟩
  unfold marchDate
  rcases Nat.lt_or_ge ((5 * t + 2) / 153) 10 with hlt | hge
  · have hmonth : ¬(5 * t + 2) / 153 + 3 ≤ 2 := by omega
    refine .inl ⟨by omega, ?_⟩
    simp only [if_pos hlt, if_neg hmonth, add_zero]
  · obtain hm | hm : (5 * t + 2) / 153 = 10 ∨ (5 * t + 2) / 153 = 11 := by omega
    · exact .inr (.inl ⟨hm, by simp [hm]⟩)
    · exact .inr (.inr ⟨hm, by simp [hm]⟩)

theorem daysInMonth_of_march (y : ℤ) {m : ℕ} (h : m ≤ 9) :
    daysInMonth y (m + 3) = (153 * (m + 1) + 2) / 5 - (153 * m + 2) / 5 := by
  interval_cases m <;> rfl

theorem daysInMonth_february (y : ℤ) : daysInMonth y 2 = 28 + leapDay y := by
  unfold leapDay
  cases h : isLeapYear y <;> simp [daysInMonth, h]

/-- The calendar has the days after 1 March, up to the next leap day. -/
theorem proper_marchDate {y : ℤ} {t : ℕ} (h : t < daysInYear (y + 1)) :
    (marchDate y t).Proper := by
  have hle : t ≤ 365 := Nat.le_of_lt_succ (Nat.lt_of_lt_of_le h (daysInYear_le _))
  obtain ⟨m, d, ht, hd, ⟨hm, hdate⟩ | ⟨rfl, hdate⟩ | ⟨rfl, hdate⟩⟩ := exists_marchDate y hle
  · have hdays := daysInMonth_of_march y hm
    rw [hdate]
    refine ⟨?_, ?_, ?_, ?_⟩ <;> simp only [hdays] <;> omega
  · have hdays : daysInMonth (y + 1) 1 = 31 := rfl
    rw [hdate]
    refine ⟨?_, ?_, ?_, ?_⟩ <;> simp only [hdays] <;> omega
  · have hdays := daysInMonth_february (y + 1)
    unfold daysInYear at h
    rw [hdate]
    refine ⟨?_, ?_, ?_, ?_⟩ <;> simp only [hdays] <;> omega

/-- The days after 1 March are counted from it. -/
theorem dayNumber_marchDate {y : ℤ} {t : ℕ} (h : t ≤ 365) :
    (marchDate y t).dayNumber = marchStart y + t := by
  have hstart := yearStart_succ y
  unfold daysInYear at hstart
  obtain ⟨m, d, ht, -, ⟨hm, hdate⟩ | ⟨rfl, hdate⟩ | ⟨rfl, hdate⟩⟩ := exists_marchDate y h
  · have hmonths := monthsLength_of_march y hm
    rw [hdate]
    simp only [Date.dayNumber, Nat.add_succ_sub_one, hmonths, marchStart]
    omega
  · have hmonths : monthsLength (y + 1) 0 = 0 := rfl
    rw [hdate]
    simp only [Date.dayNumber, Nat.sub_self, hmonths, marchStart]
    omega
  · have hmonths : monthsLength (y + 1) 1 = 31 := rfl
    rw [hdate]
    simp only [Date.dayNumber, Nat.add_one_sub_one, hmonths, marchStart]
    omega

/-- The days of an era before a year that begins in March. -/
theorem marchStart_era (era : ℤ) {y : ℕ} (h : y < 400) :
    marchStart (era * 400 + y) = era * 146097 + (365 * y + y / 4 - y / 100 : ℕ) - 719468 := by
  unfold marchStart yearStart
  omega

/-! ### The date of a day -/

namespace Date

/-- The divisions of `ofEpochDay` find 1 March before the day and the days since. -/
theorem exists_ofEpochDay (n : ℤ) : ∃ y t, t < daysInYear (y + 1) ∧
    ofEpochDay n = marchDate y t ∧ n = marchStart y + t := by
  have hday : ((n + epochOffset) % daysPerEra).toNat < 146097 := by
    unfold daysPerEra
    omega
  obtain ⟨p⟩ := EraDay.nonempty hday
  refine ⟨(n + epochOffset) / daysPerEra * 400 + p.yearOfEra, p.day, p.day_lt _, ?_, ?_⟩
  · have hrest : ((n + epochOffset) % daysPerEra).toNat
        - (365 * p.yearOfEra + p.yearOfEra / 4 - p.yearOfEra / 100) = p.day := by
      rw [Nat.sub_eq_of_eq_add']
      exact p.eq_day_add
    simp only [ofEpochDay, p.yearOfEra_eq, hrest]
    rfl
  · rw [marchStart_era _ p.yearOfEra_lt]
    have hsum := p.eq_day_add
    unfold epochOffset daysPerEra at *
    omega

/-- **The date of a day is a date of the calendar.** -/
theorem proper_ofEpochDay (n : ℤ) : (ofEpochDay n).Proper := by
  obtain ⟨y, t, ht, hdate, -⟩ := exists_ofEpochDay n
  rw [hdate]
  exact proper_marchDate ht

/-- **The date of a day is a date of that day.** -/
theorem dayNumber_ofEpochDay (n : ℤ) : (ofEpochDay n).dayNumber = n := by
  obtain ⟨y, t, ht, hdate, hday⟩ := exists_ofEpochDay n
  have hle : t ≤ 365 := Nat.le_of_lt_succ (Nat.lt_of_lt_of_le ht (daysInYear_le _))
  rw [hdate, dayNumber_marchDate hle, hday]

theorem ofEpochDay_injective : Function.Injective ofEpochDay :=
  Function.LeftInverse.injective dayNumber_ofEpochDay

/-- A later day has a later date. -/
theorem before_ofEpochDay_iff {m n : ℤ} : (ofEpochDay m).Before (ofEpochDay n) ↔ m < n := by
  rw [← dayNumber_lt_dayNumber_iff (proper_ofEpochDay m) (proper_ofEpochDay n),
    dayNumber_ofEpochDay, dayNumber_ofEpochDay]

end Date

end SearchClient
