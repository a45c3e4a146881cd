import SearchClient.Time.Calendar

/-!
# Date-times

A date with a time of day, to the nanosecond, without a time zone.  A leap
second is the second 59 with a nanosecond of 10^9 or more, so it comes after the
whole of that second and before the next one.

## Main definitions

* `DateTime`, `DateTime.Valid` — date-times.
* `DateTime.fields` — the fields, the largest unit first; date-times are ordered
  by them.
* `DateTime.isLeapSecond`, `DateTime.clockSecond`, `DateTime.fraction` — the
  second as clocks show it.
-/

namespace SearchClient

/-- A calendar date with a time of day. -/
structure DateTime where
  /-- The calendar date. -/
  date : Date
  /-- The hour, from 0 to 23. -/
  hour : Nat
  /-- The minute, from 0 to 59. -/
  minute : Nat
  /-- The second, from 0 to 59. -/
  second : Nat
  /-- The nanosecond, from 0; 10^9 and more mean a leap second. -/
  nano : Nat
  deriving DecidableEq, Repr, Inhabited

namespace DateTime

/-- A date-time that clocks and calendars have. -/
def Valid (t : DateTime) : Prop :=
  t.date.Valid ∧ t.hour < 24 ∧ t.minute < 60 ∧ t.second < 60 ∧
    t.nano < (if t.second = 59 then 2000000000 else 1000000000)

instance (t : DateTime) : Decidable t.Valid := by
  unfold Valid
  infer_instance

/-! ### Order -/

/-- The fields of a date-time, the largest unit first. -/
def fields (t : DateTime) : List Int :=
  [t.date.year, t.date.month, t.date.day, t.hour, t.minute, t.second, t.nano]

instance : LT DateTime := ⟨fun s t => s.fields < t.fields⟩

instance : LE DateTime := ⟨fun s t => ¬t < s⟩

theorem le_def (s t : DateTime) : s ≤ t ↔ ¬t < s := Iff.rfl

instance (s t : DateTime) : Decidable (s < t) :=
  inferInstanceAs (Decidable (s.fields < t.fields))

instance (s t : DateTime) : Decidable (s ≤ t) :=
  inferInstanceAs (Decidable (¬t < s))

/-- The earlier of two date-times. -/
def earlier (s t : DateTime) : DateTime := if t < s then t else s

/-- The later of two date-times. -/
def later (s t : DateTime) : DateTime := if s < t then t else s

/-! ### Seconds on the clock -/

/-- Whether the date-time lies in a leap second. -/
def isLeapSecond (t : DateTime) : Bool := 1000000000 ≤ t.nano

/-- The second that a clock shows; it shows 60 in a leap second. -/
def clockSecond (t : DateTime) : Nat := if t.isLeapSecond then t.second + 1 else t.second

/-- The nanoseconds since the clock's second began. -/
def fraction (t : DateTime) : Nat := if t.isLeapSecond then t.nano - 1000000000 else t.nano

end DateTime

end SearchClient
