import Mathlib.Order.Monotone.Basic
import Mathlib.Tactic.IntervalCases
import SearchClient.Time.Calendar

/-!
# Days and dates

What the day of a date is, in plain terms: the years before the date's year, the
months before its month and the days before it, added up.  Years count by the rule
of leap years, months by their lengths.

## Main definitions

* `Date.Proper` — dates that the calendar has, in any year.
* `yearStart`, `monthsLength` — the first day of a year, and the days of a year's
  first months.
* `Date.dayNumber` — the count of a date's day, by years, months and days.
* `Date.Before` — the order of dates.

## Main results

* `yearStart_succ` — a year is as long as the rule of leap years says.
* `Date.dayNumber_lt_dayNumber_iff` — later dates have later days.
-/

namespace SearchClient

/-! ### Years and months -/

theorem isLeapYear_iff {y : ℤ} :
    isLeapYear y = true ↔ y % 4 = 0 ∧ (y % 100 ≠ 0 ∨ y % 400 = 0) := by
  simp [isLeapYear]

/-- The leap day of a year: one day in leap years. -/
def leapDay (y : ℤ) : ℕ := if isLeapYear y then 1 else 0

/-- The number of days of a year. -/
def daysInYear (y : ℤ) : ℕ := 365 + leapDay y

theorem daysInYear_le (y : ℤ) : daysInYear y ≤ 366 := by
  unfold daysInYear leapDay
  split <;> omega

/-- The count of 1 January of a year from 1970-01-01.  There were 477 leap days
from year 1 to year 1969. -/
def yearStart (y : ℤ) : ℤ :=
  365 * (y - 1970) + ((y - 1) / 4 - (y - 1) / 100 + (y - 1) / 400 - 477)

/-- The number of days of the first months of a year. -/
def monthsLength (y : ℤ) : ℕ → ℕ
  | 0 => 0
  | m + 1 => monthsLength y m + daysInMonth y (m + 1)

@[simp] theorem yearStart_epoch : yearStart 1970 = 0 := rfl

/-- **A year ends after its days, and the next one begins.** -/
theorem yearStart_succ (y : ℤ) : yearStart (y + 1) = yearStart y + daysInYear y := by
  unfold daysInYear leapDay
  split
  · next h =>
    rw [isLeapYear_iff] at h
    unfold yearStart
    omega
  · next h =>
    rw [isLeapYear_iff] at h
    unfold yearStart
    omega

/-- Years begin in order. -/
theorem yearStart_le_yearStart {x y : ℤ} (h : x ≤ y) : yearStart x ≤ yearStart y := by
  unfold yearStart
  omega

theorem monthsLength_mono (y : ℤ) : Monotone (monthsLength y) :=
  monotone_nat_of_le_succ fun _ => Nat.le_add_right _ _

/-- The months of a year make up the year. -/
theorem monthsLength_twelve (y : ℤ) : monthsLength y 12 = daysInYear y := by
  unfold daysInYear leapDay
  cases h : isLeapYear y <;> simp [monthsLength, daysInMonth, h]

/-- From March on, months have 30.6 days on average, rounded. -/
theorem monthsLength_of_march (y : ℤ) {m : ℕ} (h : m ≤ 9) :
    monthsLength y (m + 2) = 59 + leapDay y + (153 * m + 2) / 5 := by
  unfold leapDay
  cases hy : isLeapYear y <;> interval_cases m <;> simp [monthsLength, daysInMonth, hy]

namespace Date

/-! ### The count of a date's day -/

/-- A date that the calendar has, whatever its year. -/
def Proper (d : Date) : Prop :=
  1 ≤ d.month ∧ d.month ≤ 12 ∧ 1 ≤ d.day ∧ d.day ≤ daysInMonth d.year d.month

instance (d : Date) : Decidable d.Proper := by
  unfold Proper
  infer_instance

/-- The count of a date's day from 1970-01-01. -/
def dayNumber (d : Date) : ℤ :=
  yearStart d.year + monthsLength d.year (d.month - 1) + (d.day - 1)

/-- `d.Before e` says that `d` is earlier than `e`. -/
def Before (d e : Date) : Prop :=
  d.year < e.year ∨ d.year = e.year ∧ (d.month < e.month ∨ d.month = e.month ∧ d.day < e.day)

/-- A day lies in the month of its date. -/
theorem Proper.monthsLength_le {d : Date} (h : d.Proper) :
    monthsLength d.year (d.month - 1) + d.day ≤ monthsLength d.year d.month := by
  obtain ⟨h1, -, -, hday⟩ := h
  obtain ⟨m, hm⟩ : ∃ m, d.month = m + 1 := ⟨d.month - 1, by omega⟩
  rw [hm] at hday ⊢
  rw [Nat.add_sub_cancel, monthsLength]
  omega

/-- A day lies in the year of its date. -/
theorem Proper.dayNumber_lt {d : Date} (h : d.Proper) : d.dayNumber < yearStart (d.year + 1) := by
  have hmonth := h.monthsLength_le
  have hyear := monthsLength_mono d.year h.2.1
  rw [monthsLength_twelve] at hyear
  rw [yearStart_succ, dayNumber]
  omega

theorem Proper.yearStart_le {d : Date} (h : d.Proper) : yearStart d.year ≤ d.dayNumber := by
  obtain ⟨-, -, hday, -⟩ := h
  unfold dayNumber
  omega

/-- An earlier date has an earlier day. -/
theorem Before.dayNumber_lt {d e : Date} (hd : d.Proper) (he : e.Proper) (h : d.Before e) :
    d.dayNumber < e.dayNumber := by
  rcases h with hyear | ⟨hyear, hmonth | ⟨hmonth, hday⟩⟩
  · -- the later date lies in a later year
    calc d.dayNumber < yearStart (d.year + 1) := hd.dayNumber_lt
      _ ≤ yearStart e.year := yearStart_le_yearStart hyear
      _ ≤ e.dayNumber := he.yearStart_le
  · -- the later date lies in a later month of the same year
    have hin := hd.monthsLength_le
    have hle : monthsLength d.year d.month ≤ monthsLength e.year (e.month - 1) := by
      rw [hyear]
      exact monthsLength_mono e.year (by omega)
    obtain ⟨-, -, hday, -⟩ := he
    unfold dayNumber
    rw [hyear] at hin hle ⊢
    omega
  · -- the months are the same, too
    unfold dayNumber
    rw [hyear, hmonth]
    omega

theorem before_trichotomy (d e : Date) : d.Before e ∨ d = e ∨ e.Before d := by
  obtain ⟨y, m, k⟩ := d
  obtain ⟨y', m', k'⟩ := e
  simp only [Before, Date.mk.injEq]
  omega

/-- **Later dates have later days.** -/
theorem dayNumber_lt_dayNumber_iff {d e : Date} (hd : d.Proper) (he : e.Proper) :
    d.dayNumber < e.dayNumber ↔ d.Before e := by
  refine ⟨fun h => ?_, Before.dayNumber_lt hd he⟩
  rcases before_trichotomy d e with hlt | rfl | hgt
  · exact hlt
  · omega
  · have := hgt.dayNumber_lt he hd
    omega

/-- A day has one date. -/
theorem dayNumber_injective {d e : Date} (hd : d.Proper) (he : e.Proper)
    (h : d.dayNumber = e.dayNumber) : d = e := by
  rcases before_trichotomy d e with hlt | heq | hgt
  · have := hlt.dayNumber_lt hd he
    omega
  · exact heq
  · have := hgt.dayNumber_lt he hd
    omega

end Date

end SearchClient
