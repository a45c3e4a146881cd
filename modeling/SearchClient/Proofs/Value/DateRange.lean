import SearchClient.Proofs.Time.Stamp
import SearchClient.Value.Range

/-!
# Date ranges read back

A date range between counts of milliseconds is read back as a pair of instants.
Bounds that are turned down are turned down in a fixed order: the first bound out
of range, then the second one, then a range that ends before it starts.

## Main definitions

* `Range.readBetween?` — the bounds of a range, read by any reader of bounds.
* `Range.readStamps?`, `Range.readInstants?` — the bounds that a range's text shows.
* `Range.stamps` — the stamps of a range's bounds.
* `Range.span` — the instants that a range between counts of milliseconds reaches.

## Main results

* `Range.readStamps?_render` — a range is read back from its text.
* `Range.dates_millis` — **what the range between two counts of milliseconds is**,
  errors and text, at either precision.
-/

namespace SearchClient.Range

/-! ### Reading -/

/-- What `read` finds between the brackets of a range. -/
def readBetween? {α : Type} (read : List Char → Option (α × List Char)) (s : String) :
    Option (α × α) := do
  let cs ← s.toList.dropPrefix? ['[']
  let (start, cs) ← read cs
  let cs ← cs.dropPrefix? [' ', 'T', 'O', ' ']
  let (stop, cs) ← read cs
  if cs = [']'] then some (start, stop) else none

/-- The stamps between the brackets of a range. -/
def readStamps? (s : String) : Option (Stamp × Stamp) := readBetween? readStamp? s

/-- The instants between the brackets of a range. -/
def readInstants? (s : String) : Option (ℤ × ℤ) :=
  (readStamps? s).map fun (start, stop) => (start.instant, stop.instant)

/-- A range is read back if its bounds are, each in front of the mark that follows it. -/
theorem readBetween?_between {α : Type} {read : List Char → Option (α × List Char)} {x y : α}
    {start stop : List Char}
    (hstart : ∀ rest, read (start ++ ' ' :: rest) = some (x, ' ' :: rest))
    (hstop : ∀ rest, read (stop ++ ']' :: rest) = some (y, ']' :: rest)) :
    readBetween? read (between start stop) = some (x, y) := by
  have hword (cs : List Char) :
      (' ' :: 'T' :: 'O' :: ' ' :: cs).dropPrefix? [' ', 'T', 'O', ' '] = some cs :=
    List.dropPrefix?_append_of_beq cs (beq_self_eq_true [' ', 'T', 'O', ' '])
  simp only [readBetween?, between, String.toList_ofList, List.append_assoc, List.cons_append,
    List.nil_append, dropPrefix?_cons_self, hstart, hstop, hword, Option.bind_eq_bind,
    Option.bind_some, if_true]

/-- A range between two stamps is read back as these. -/
theorem readStamps?_between {start stop : Stamp} (hstart : start.Proper) (hstop : stop.Proper) :
    readStamps? (between start.chars stop.chars) = some (start, stop) :=
  readBetween?_between (fun _ => readStamp?_chars hstart _) fun _ => readStamp?_chars hstop _

/-! ### The bounds of a range -/

/-- The stamps of a range's bounds: at day precision, the first stamp of the first
day and the last one of the last day. -/
def stamps (start stop : DateTime) : Precision → Stamp × Stamp
  | .day => (start.date.firstStamp, stop.date.lastStamp)
  | .millisecond => (start.stamp, stop.stamp)

theorem render_eq (start stop : DateTime) (precision : Precision) :
    render start stop precision =
      between (stamps start stop precision).1.chars (stamps start stop precision).2.chars := by
  cases precision with
  | day => rw [render, stamps, Date.chars_firstStamp, Date.chars_lastStamp]
  | millisecond => rw [render, stamps, DateTime.timestamp_eq, DateTime.timestamp_eq]

/-- A range between date-times is read back from its text. -/
theorem readStamps?_render {start stop : DateTime} (hstart : start.stamp.Proper)
    (hstop : stop.stamp.Proper) (precision : Precision) :
    readStamps? (render start stop precision) = some (stamps start stop precision) := by
  rw [render_eq]
  cases precision with
  | day => exact readStamps?_between (Date.Proper.firstStamp hstart.1) (Date.Proper.lastStamp hstop.1)
  | millisecond => exact readStamps?_between hstart hstop

/-! ### Ranges between counts of milliseconds -/

/-- The first and the last instant of the range from `start` to `stop`: at day
precision, the days of these are counted in full. -/
def span (start stop : ℤ) : Precision → ℤ × ℤ
  | .day => (start / 86400000 * 86400000, stop / 86400000 * 86400000 + 86399999)
  | .millisecond => (start, stop)

/-- The range between two counts of milliseconds shows its span. -/
theorem readInstants?_render (start stop : ℤ) (precision : Precision) :
    readInstants? (render (.ofEpochMillis start) (.ofEpochMillis stop) precision) =
      some (span start stop precision) := by
  unfold readInstants?
  rw [readStamps?_render (DateTime.proper_stamp_ofEpochMillis start)
    (DateTime.proper_stamp_ofEpochMillis stop)]
  cases precision with
  | day =>
    have hdate (n : ℤ) : (DateTime.ofEpochMillis n).date.dayNumber = n / 86400000 :=
      Date.dayNumber_ofEpochDay _
    simp only [stamps, span, Option.map_some, Date.instant_firstStamp, Date.instant_lastStamp,
      hdate]
  | millisecond =>
    simp only [stamps, span, Option.map_some, DateTime.instant_stamp_ofEpochMillis]

/-- A count of milliseconds in range stands for its date-time. -/
theorem resolve_millis (n : ℤ) :
    (DateBound.millis n).resolve =
      if n < -8334601228800000 ∨ 8210266876799999 < n then .error (.timestampOutOfRange n)
      else .ok (.ofEpochMillis n) := by
  show dateTimeOfMillis n = _
  unfold dateTimeOfMillis DateTime.ofEpochMillis? minEpochMillis maxEpochMillis
  by_cases h : n < -8334601228800000 ∨ 8210266876799999 < n
  · have hout : ¬(-8334601228800000 ≤ n ∧ n ≤ 8210266876799999) := by omega
    rw [if_neg hout, if_pos h]
  · have hin : -8334601228800000 ≤ n ∧ n ≤ 8210266876799999 := by omega
    rw [if_pos hin, if_neg h]

/-- The range between two counts of milliseconds, or why there is none: date-times
are compared, which comes to the same as comparing the counts. -/
theorem dates_millis_eq (start stop : ℤ) (precision : Precision) :
    dates (.millis start) (.millis stop) precision =
      if start < -8334601228800000 ∨ 8210266876799999 < start then
        .error (.timestampOutOfRange start)
      else if stop < -8334601228800000 ∨ 8210266876799999 < stop then
        .error (.timestampOutOfRange stop)
      else if stop < start then
        .error (.invertedRange (.ofEpochMillis start) (.ofEpochMillis stop))
      else .ok (render (.ofEpochMillis start) (.ofEpochMillis stop) precision) := by
  unfold dates
  rw [resolve_millis, resolve_millis]
  by_cases hstart : start < -8334601228800000 ∨ 8210266876799999 < start
  · -- the first bound is turned down, whatever the second one is
    rw [if_pos hstart, if_pos hstart]
    rfl
  · rw [if_neg hstart, if_neg hstart]
    by_cases hstop : stop < -8334601228800000 ∨ 8210266876799999 < stop
    · rw [if_pos hstop, if_pos hstop]
      rfl
    · rw [if_neg hstop, if_neg hstop]
      simp only [bind, Except.bind, DateTime.ofEpochMillis_lt_ofEpochMillis_iff]

/-- The span holds both bounds. -/
theorem le_span (start stop : ℤ) (precision : Precision) :
    (span start stop precision).1 ≤ start ∧ stop ≤ (span start stop precision).2 := by
  cases precision with
  | day =>
    show start / 86400000 * 86400000 ≤ start ∧ stop ≤ stop / 86400000 * 86400000 + 86399999
    omega
  | millisecond => exact ⟨le_refl start, le_refl stop⟩

/-- **The range between two counts of milliseconds.**  A bound out of range is an
error, the first bound's before the second's; so is a range that ends before it
starts.  Any other range has a text, which shows the very instants of its span, and
both bounds lie in the span. -/
theorem dates_millis (start stop : ℤ) (precision : Precision) :
    (dates (.millis start) (.millis stop) precision).map readInstants? =
      (if start < -8334601228800000 ∨ 8210266876799999 < start then
        .error (.timestampOutOfRange start)
      else if stop < -8334601228800000 ∨ 8210266876799999 < stop then
        .error (.timestampOutOfRange stop)
      else if stop < start then
        .error (.invertedRange (.ofEpochMillis start) (.ofEpochMillis stop))
      else .ok (some (span start stop precision))) ∧
    (span start stop precision).1 ≤ start ∧ stop ≤ (span start stop precision).2 := by
  refine ⟨?_, le_span start stop precision⟩
  rw [dates_millis_eq]
  split
  · rfl
  · split
    · rfl
    · split
      · rfl
      · exact congrArg Except.ok (readInstants?_render start stop precision)

end SearchClient.Range
