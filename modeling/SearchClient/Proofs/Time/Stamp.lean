import Mathlib.Data.List.Basic
import SearchClient.Proofs.Decimal.Numeral
import SearchClient.Proofs.Time.Epoch
import SearchClient.Value.Range

/-!
# Timestamps read back

A timestamp is read from left to right: a year of four digits, or a sign and four
digits at least, then fields of a fixed width with their separators between them.
What is read must be a date of the calendar and a time of the clock, and it is an
instant: a number of milliseconds since 1970-01-01T00:00:00.

## Main definitions

* `Stamp`, `Stamp.Proper` — what a timestamp shows, and what it may show.
* `Stamp.Fits` — stamps with room for every field.
* `Stamp.instant` — the milliseconds from 1970-01-01T00:00:00.
* `readFields?` — the fields at the front of a text, and what follows them.
* `readStamp?` — the same, for a date of the calendar and a time of the clock.
* `DateTime.stamp`, `Date.firstStamp`, `Date.lastStamp` — the stamps of a date-time
  and of the bounds of a day.

## Main results

* `readFields?_chars`, `readStamp?_chars` — **a stamp is read back from its text.**
* `Stamp.chars_injective` — a text shows one stamp only.
* `DateTime.instant_stamp_ofEpochMillis` — the date-time of a count of milliseconds
  shows that instant.
-/

namespace SearchClient

open Decimal

/-- What a timestamp shows. -/
structure Stamp where
  /-- The date. -/
  date : Date
  /-- The hour. -/
  hour : ℕ
  /-- The minute. -/
  minute : ℕ
  /-- The second on the clock. -/
  second : ℕ
  /-- The millisecond. -/
  milli : ℕ
  deriving DecidableEq, Repr, Inhabited

namespace Stamp

/-- A date of the calendar and a time of the clock; the second is 60 in leap
seconds only. -/
def Proper (t : Stamp) : Prop :=
  t.date.Proper ∧ t.hour < 24 ∧ t.minute < 60 ∧
    (t.second < 60 ∨ t.second = 60 ∧ t.minute = 59) ∧ t.milli < 1000

instance (t : Stamp) : Decidable t.Proper := by
  unfold Proper
  infer_instance

/-- A stamp whose fields all have room in their widths.  Years take as much room as
they need. -/
def Fits (t : Stamp) : Prop :=
  t.date.month < 100 ∧ t.date.day < 100 ∧ t.hour < 100 ∧ t.minute < 100 ∧ t.second < 100 ∧
    t.milli < 1000

instance (t : Stamp) : Decidable t.Fits := by
  unfold Fits
  infer_instance

/-- The milliseconds from 1970-01-01T00:00:00 to a stamp. -/
def instant (t : Stamp) : ℤ :=
  t.date.dayNumber * 86400000 +
    (t.hour * 3600000 + t.minute * 60000 + t.second * 1000 + t.milli : ℕ)

/-- The text of a time of day in UTC. -/
def clock (hour minute second milli : ℕ) : List Char :=
  'T' :: padded 2 hour ++ ':' :: padded 2 minute ++ ':' :: padded 2 second ++
    '.' :: padded 3 milli ++ ['Z']

/-- The text of a stamp. -/
def chars (t : Stamp) : List Char :=
  t.date.render ++ clock t.hour t.minute t.second t.milli

end Stamp

theorem daysInMonth_le (y : ℤ) (m : ℕ) : daysInMonth y m ≤ 31 := by
  unfold daysInMonth
  split <;> (try split) <;> omega

/-- Dates of the calendar and times of the clock have room. -/
theorem Stamp.Proper.fits {t : Stamp} (h : t.Proper) : t.Fits := by
  obtain ⟨⟨-, hmonth, -, hday⟩, hhour, hminute, hsecond, hmilli⟩ := h
  have hdays := daysInMonth_le t.date.year t.date.month
  exact ⟨by omega, by omega, by omega, by omega, by omega, hmilli⟩

/-! ### Reading -/

/-- The year at the front of a text, and what follows it.  Years before 0 and after
9999 have a sign, and no others do. -/
def readYear? : List Char → Option (ℤ × List Char)
  | '-' :: cs => do
    let (n, cs) ← readLong? 4 cs
    if 0 < n then some (-(n : ℤ), cs) else none
  | '+' :: cs => do
    let (n, cs) ← readLong? 4 cs
    if 9999 < n then some ((n : ℤ), cs) else none
  | cs => do
    let (n, cs) ← readDigits? 4 cs
    some ((n : ℤ), cs)

/-- The date at the front of a text, and what follows it. -/
def readDate? (cs : List Char) : Option (Date × List Char) := do
  let (year, cs) ← readYear? cs
  let cs ← cs.dropPrefix? ['-']
  let (month, cs) ← readDigits? 2 cs
  let cs ← cs.dropPrefix? ['-']
  let (day, cs) ← readDigits? 2 cs
  return (⟨year, month, day⟩, cs)

/-- The fields at the front of a text, whether or not the calendar and the clock have
them, and what follows them. -/
def readFields? (cs : List Char) : Option (Stamp × List Char) := do
  let (date, cs) ← readDate? cs
  let cs ← cs.dropPrefix? ['T']
  let (hour, cs) ← readDigits? 2 cs
  let cs ← cs.dropPrefix? [':']
  let (minute, cs) ← readDigits? 2 cs
  let cs ← cs.dropPrefix? [':']
  let (second, cs) ← readDigits? 2 cs
  let cs ← cs.dropPrefix? ['.']
  let (milli, cs) ← readDigits? 3 cs
  let cs ← cs.dropPrefix? ['Z']
  return (⟨date, hour, minute, second, milli⟩, cs)

/-- The stamp at the front of a text, and what follows it: the fields are read one by one,
and then looked up in the calendar and on the clock. -/
def readStamp? (cs : List Char) : Option (Stamp × List Char) :=
  (readFields? cs).bind fun (t, rest) => if t.Proper then some (t, rest) else none

@[simp] theorem dropPrefix?_cons_self (c : Char) (cs : List Char) :
    (c :: cs).dropPrefix? [c] = some cs :=
  List.dropPrefix?_append_of_beq cs (beq_self_eq_true [c])

/-- A year without a sign has four digits. -/
theorem readYear?_of_isDigit {c : Char} (h : IsDigit c) (cs : List Char) :
    readYear? (c :: cs) = (readDigits? 4 (c :: cs)).bind fun (n, cs) => some ((n : ℤ), cs) := by
  unfold readYear?
  split
  · next heq =>
    obtain ⟨rfl, -⟩ := List.cons.inj heq
    exact absurd h (by decide)
  · next heq =>
    obtain ⟨rfl, -⟩ := List.cons.inj heq
    exact absurd h (by decide)
  · rfl

/-- A year is read back up to the hyphen behind it. -/
theorem readYear?_renderYear (y : ℤ) (rest : List Char) :
    readYear? (renderYear y ++ '-' :: rest) = some (y, '-' :: rest) := by
  have hyphen : ¬IsDigit '-' := by decide
  unfold renderYear
  split
  · -- four digits, and the first of them is no sign
    next h =>
    have hread := readDigits?_padded (show y.toNat < 10 ^ (3 + 1) by omega) ('-' :: rest)
    obtain ⟨c, cs, hc⟩ : ∃ c cs, padded 4 y.toNat = c :: cs :=
      List.exists_cons_of_length_pos (Nat.lt_of_lt_of_le (by omega) (le_length_padded 4 _))
    have hdigit : IsDigit c := by
      apply isDigit_of_mem_padded
      rw [hc]
      exact List.mem_cons_self
    rw [hc] at hread ⊢
    rw [List.cons_append] at hread ⊢
    rw [readYear?_of_isDigit hdigit, hread]
    simp only [Option.bind_some, Int.toNat_of_nonneg h.1]
  · -- a sign, and then all digits up to the hyphen
    next h =>
    have hread := readLong?_padded 4 y.natAbs hyphen rest
    split
    · next hneg =>
      have hyear : -(y.natAbs : ℤ) = y := by omega
      rw [List.cons_append, readYear?, hread]
      simp only [Option.bind_eq_bind, Option.bind_some]
      rw [if_pos (by omega), hyear]
    · next hpos =>
      have hyear : (y.natAbs : ℤ) = y := by omega
      rw [List.cons_append, readYear?, hread]
      simp only [Option.bind_eq_bind, Option.bind_some]
      rw [if_pos (by omega), hyear]

/-- A date is read back from its text. -/
theorem readDate?_render {d : Date} (hmonth : d.month < 100) (hday : d.day < 100)
    (rest : List Char) : readDate? (d.render ++ rest) = some (d, rest) := by
  have hm : d.month < 10 ^ (1 + 1) := hmonth
  have hd : d.day < 10 ^ (1 + 1) := hday
  simp only [readDate?, Date.render, List.append_assoc, List.cons_append, readYear?_renderYear,
    readDigits?_padded hm, readDigits?_padded hd, dropPrefix?_cons_self, Option.bind_eq_bind,
    Option.bind_some, Option.pure_def]

/-- **The fields of a stamp are read back from its text**, whatever follows it. -/
theorem readFields?_chars {t : Stamp} (h : t.Fits) (rest : List Char) :
    readFields? (t.chars ++ rest) = some (t, rest) := by
  obtain ⟨hmonth, hday, hhour, hminute, hsecond, hmilli⟩ := h
  have hh : t.hour < 10 ^ (1 + 1) := hhour
  have hm : t.minute < 10 ^ (1 + 1) := hminute
  have hs : t.second < 10 ^ (1 + 1) := hsecond
  have hms : t.milli < 10 ^ (2 + 1) := hmilli
  simp only [readFields?, Stamp.chars, Stamp.clock, List.append_assoc, List.cons_append,
    List.nil_append, readDate?_render hmonth hday, readDigits?_padded hh, readDigits?_padded hm,
    readDigits?_padded hs, readDigits?_padded hms, dropPrefix?_cons_self, Option.bind_eq_bind,
    Option.bind_some, Option.pure_def]

/-- A text shows one stamp only. -/
theorem Stamp.chars_injective {t u : Stamp} (ht : t.Fits) (hu : u.Fits)
    (h : t.chars = u.chars) : t = u := by
  have hread := readFields?_chars ht []
  rw [h, readFields?_chars hu] at hread
  exact (Prod.mk.inj (Option.some.inj hread)).1.symm

/-- **A stamp is read back from its text**, whatever follows it. -/
theorem readStamp?_chars {t : Stamp} (h : t.Proper) (rest : List Char) :
    readStamp? (t.chars ++ rest) = some (t, rest) := by
  rw [readStamp?, readFields?_chars h.fits, Option.bind_some]
  exact if_pos h

/-! ### Stamps of date-times -/

namespace DateTime

/-- What the timestamp of a date-time shows. -/
def stamp (t : DateTime) : Stamp :=
  ⟨t.date, t.hour, t.minute, t.clockSecond, t.fraction / 1000000⟩

theorem timestamp_eq (t : DateTime) : t.timestamp = t.stamp.chars := by
  simp [timestamp, renderClock, Stamp.chars, Stamp.clock, stamp]

theorem stamp_ofEpochMillis (n : ℤ) :
    (ofEpochMillis n).stamp =
      ⟨Date.ofEpochDay (n / 86400000), (n % 86400000).toNat / 3600000,
        (n % 86400000).toNat / 60000 % 60, (n % 86400000).toNat / 1000 % 60,
        (n % 86400000).toNat % 1000⟩ := by
  rw [stamp, clockSecond, fraction, isLeapSecond_ofEpochMillis]
  simp [ofEpochMillis, millisPerDay]

/-- Any count of milliseconds has a stamp of the calendar and the clock. -/
theorem proper_stamp_ofEpochMillis (n : ℤ) : (ofEpochMillis n).stamp.Proper := by
  rw [stamp_ofEpochMillis]
  refine ⟨Date.proper_ofEpochDay _, ?_, ?_, ?_, ?_⟩
  · show (n % 86400000).toNat / 3600000 < 24
    omega
  · exact Nat.mod_lt _ (by omega)
  · exact Or.inl (Nat.mod_lt _ (by omega))
  · exact Nat.mod_lt _ (by omega)

/-- **The stamp of a count of milliseconds shows that instant.** -/
theorem instant_stamp_ofEpochMillis (n : ℤ) : (ofEpochMillis n).stamp.instant = n := by
  rw [stamp_ofEpochMillis]
  simp only [Stamp.instant, Date.dayNumber_ofEpochDay]
  omega

end DateTime

/-! ### Stamps of days -/

namespace Date

/-- The first stamp of a day. -/
def firstStamp (d : Date) : Stamp := ⟨d, 0, 0, 0, 0⟩

/-- The last stamp of a day. -/
def lastStamp (d : Date) : Stamp := ⟨d, 23, 59, 59, 999⟩

theorem Proper.firstStamp {d : Date} (h : d.Proper) : d.firstStamp.Proper :=
  ⟨h, by simp [Date.firstStamp]⟩

theorem Proper.lastStamp {d : Date} (h : d.Proper) : d.lastStamp.Proper :=
  ⟨h, by simp [Date.lastStamp]⟩

theorem chars_firstStamp (d : Date) : d.firstStamp.chars = d.render ++ Range.dayStart := by
  have hclock : Stamp.clock 0 0 0 0 = Range.dayStart := by decide +kernel
  rw [Stamp.chars, firstStamp, hclock]

theorem chars_lastStamp (d : Date) : d.lastStamp.chars = d.render ++ Range.dayEnd := by
  have hclock : Stamp.clock 23 59 59 999 = Range.dayEnd := by decide +kernel
  rw [Stamp.chars, lastStamp, hclock]

theorem instant_firstStamp (d : Date) : d.firstStamp.instant = d.dayNumber * 86400000 := by
  simp [Stamp.instant, firstStamp]

theorem instant_lastStamp (d : Date) :
    d.lastStamp.instant = d.dayNumber * 86400000 + 86399999 := by
  simp only [Stamp.instant, lastStamp]
  omega

end Date

end SearchClient
