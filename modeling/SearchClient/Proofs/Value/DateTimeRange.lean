import SearchClient.Proofs.Time.Order
import SearchClient.Proofs.Value.DateRange

/-!
# Ranges between date-times

A range between two date-times has a text unless it ends before it starts.  At
millisecond precision the text shows both bounds, cut to milliseconds.  At day precision
it reaches from the first stamp of one day to the last stamp of another, 23:59:59.999,
and so it holds all of these days but a leap second that ends the last one.

## Main definitions

* `Stamp.ShownBy` — a text shows a stamp, and no other.
* `Range.readBounds?`, `Range.Holds` — what a range's text shows, and the date-times
  that lie within.
* `DateTime.InClosingLeap` — the date-times in a leap second at the end of their day.

## Main results

* `Range.dates_plain` — when there is a range between date-times.
* `Range.dates_millisecond` — **a range at millisecond precision shows its bounds, cut
  and in order.**
* `Range.holds_dates_day` — **the date-times that a range at day precision holds.**
* `Range.not_holds_closingLeap` — a range that does not hold its own bounds.
-/

namespace SearchClient

/-- A text shows a stamp if it is read as this stamp up to its end, and if it is the
text of no other stamp. -/
def Stamp.ShownBy (t : Stamp) (cs : List Char) : Prop :=
  readFields? cs = some (t, []) ∧ ∀ u : Stamp, u.Fits → u.chars = cs → u = t

theorem Stamp.Fits.shownBy_chars {t : Stamp} (h : t.Fits) : t.ShownBy t.chars := by
  constructor
  · rw [← List.append_nil t.chars]
    exact readFields?_chars h []
  · intro u hu heq
    exact Stamp.chars_injective hu h heq

/-- The date-time lies in a leap second at the end of its day. -/
def DateTime.InClosingLeap (t : DateTime) : Prop :=
  t.hour = 23 ∧ t.minute = 59 ∧ 1000000000 ≤ t.nano

instance (t : DateTime) : Decidable t.InClosingLeap := by
  unfold DateTime.InClosingLeap
  infer_instance

/-! ### Days -/

/-- The calendar has the dates that are kept. -/
theorem Date.Valid.proper {d : Date} (h : d.Valid) : d.Proper := h.2.2

theorem Date.not_before_self (d : Date) : ¬d.Before d := by
  simp [Before]

/-- A date-time that is not later has a date that is not later. -/
theorem DateTime.not_before_of_le {s t : DateTime} (h : s ≤ t) : ¬t.date.Before s.date := by
  intro hdate
  apply h
  rw [DateTime.lt_iff]
  exact Or.inl hdate

/-- A day's first stamp comes before all date-times of the day and of later ones. -/
theorem Date.firstStamp_le_cut_iff {d : Date} {x : DateTime} :
    d.firstStamp ≤ x.cut ↔ ¬x.date.Before d := by
  rw [← not_lt, Stamp.lt_iff]
  simp [DateTime.cut, firstStamp]

/-- A day's last stamp comes after all date-times of the day and of earlier ones, except
for those of a leap second that ends the day. -/
theorem Date.cut_le_lastStamp_iff {d : Date} {x : DateTime} (hx : x.Valid) :
    x.cut ≤ d.lastStamp ↔ ¬d.Before x.date ∧ ¬(x.date = d ∧ x.InClosingLeap) := by
  have hnano := hx.nano_lt
  obtain ⟨-, hhour, hminute, hsecond, -⟩ := hx
  -- on one day, only second 60 comes after 23:59:59.999
  have hclock : (23 < x.hour ∨ 23 = x.hour ∧ (59 < x.minute ∨ 59 = x.minute ∧
      (59 < x.cut.second ∨ 59 = x.cut.second ∧ 999 < x.cut.milli))) ↔ x.InClosingLeap := by
    unfold DateTime.InClosingLeap
    simp only [DateTime.cut]
    split <;> omega
  rw [← not_lt, Stamp.lt_iff, ← not_or, eq_comm (a := x.date), ← hclock]
  rfl

namespace Range

/-! ### The range between two date-times -/

/-- The stamps between the brackets of a range, whether or not the calendar and the clock
have them. -/
def readBounds? (text : String) : Option (Stamp × Stamp) := readBetween? readFields? text

/-- A range holds a date-time if that is shown between its bounds. -/
def Holds (text : String) (x : DateTime) : Prop :=
  ∃ start stop, readBounds? text = some (start, stop) ∧ start ≤ x.cut ∧ x.cut ≤ stop

theorem holds_iff_of_readBounds? {text : String} {start stop : Stamp}
    (h : readBounds? text = some (start, stop)) (x : DateTime) :
    Holds text x ↔ start ≤ x.cut ∧ x.cut ≤ stop := by
  unfold Holds
  rw [h]
  simp

/-- There is a range between bounds that stand for date-times, unless these are out of
order. -/
theorem dates_of_resolve {start stop : DateBound} {s t : DateTime} (hs : start.resolve = .ok s)
    (ht : stop.resolve = .ok t) (precision : Precision) :
    dates start stop precision =
      if t < s then .error (.invertedRange s t) else .ok (render s t precision) := by
  unfold dates
  rw [hs, ht]
  rfl

theorem dates_plain (s t : DateTime) (precision : Precision) :
    dates (.plain s) (.plain t) precision =
      if t < s then .error (.invertedRange s t) else .ok (render s t precision) :=
  dates_of_resolve rfl rfl precision

/-- A range is turned down only if it ends before it starts. -/
theorem dates_plain_eq_error_iff {s t : DateTime} {precision : Precision} {e : ValueError} :
    dates (.plain s) (.plain t) precision = .error e ↔ t < s ∧ e = .invertedRange s t := by
  rw [dates_plain]
  split
  · next h => simp [h, eq_comm]
  · next h => simp [h]

theorem render_millisecond {s t : DateTime} (hs : s.Valid) (ht : t.Valid) :
    render s t .millisecond = between s.cut.chars t.cut.chars := by
  rw [render, DateTime.timestamp_eq_chars_cut hs, DateTime.timestamp_eq_chars_cut ht]

/-- **A range at millisecond precision.**  It is turned down only if it ends before it
starts, to the nanosecond.  Its text shows the fields of both bounds, with whole
milliseconds in place of the fraction, and it shows them in order.  In the years with four
digits its timestamps have 24 characters each, and the first one is the lower one as a
text, too. -/
theorem dates_millisecond {s t : DateTime} (hs : s.Valid) (ht : t.Valid) :
    (∀ e, dates (.plain s) (.plain t) .millisecond = .error e ↔
      t < s ∧ e = .invertedRange s t) ∧
    (s ≤ t → ∃ A B : List Char,
      dates (.plain s) (.plain t) .millisecond = .ok (between A B) ∧
      s.cut.ShownBy A ∧ t.cut.ShownBy B ∧ s.cut ≤ t.cut ∧
      (0 ≤ s.date.year ∧ s.date.year ≤ 9999 → 0 ≤ t.date.year ∧ t.date.year ≤ 9999 →
        A.length = 24 ∧ B.length = 24 ∧ String.ofList A ≤ String.ofList B)) := by
  refine ⟨fun e => dates_plain_eq_error_iff, ?_⟩
  intro hle
  have hsfits := DateTime.fits_cut hs
  have htfits := DateTime.fits_cut ht
  have hcut := DateTime.cut_le_cut hs ht hle
  refine ⟨s.cut.chars, t.cut.chars, ?_, hsfits.shownBy_chars, htfits.shownBy_chars, hcut, ?_⟩
  · rw [dates_plain, if_neg hle, render_millisecond hs ht]
  · intro hsyear htyear
    exact ⟨Stamp.length_chars hsfits hsyear, Stamp.length_chars htfits htyear,
      Stamp.chars_le_chars hsfits htfits hsyear htyear hcut⟩

/-- The last nanosecond of 2016 before its leap second. -/
def lastOrdinary : DateTime := ⟨⟨2016, 12, 31⟩, 23, 59, 59, 999999999⟩

/-- The middle of the leap second that ends 2016. -/
def closingLeap : DateTime := ⟨⟨2016, 12, 31⟩, 23, 59, 59, 1500000000⟩

theorem dates_millisecond_closingLeap :
    lastOrdinary.Valid ∧ closingLeap.Valid ∧ lastOrdinary ≤ closingLeap ∧
      ∃ A B : List Char,
        dates (.plain lastOrdinary) (.plain closingLeap) .millisecond = .ok (between A B) ∧
        Stamp.ShownBy ⟨⟨2016, 12, 31⟩, 23, 59, 59, 999⟩ A ∧
        Stamp.ShownBy ⟨⟨2016, 12, 31⟩, 23, 59, 60, 500⟩ B ∧
        A.length = 24 ∧ B.length = 24 ∧ String.ofList A ≤ String.ofList B := by
  have hs : lastOrdinary.Valid := by decide
  have ht : closingLeap.Valid := by decide
  have hle : lastOrdinary ≤ closingLeap := by decide
  obtain ⟨A, B, htext, hA, hB, -, hyears⟩ := (dates_millisecond hs ht).2 hle
  exact ⟨hs, ht, hle, A, B, htext, hA, hB, hyears (by decide) (by decide)⟩

/-! ### The range over two days -/

theorem readBounds?_render_day {s t : DateTime} (hs : s.Valid) (ht : t.Valid) :
    readBounds? (render s t .day) = some (s.date.firstStamp, t.date.lastStamp) := by
  have hstart := (Date.Proper.firstStamp hs.1.proper).fits
  have hstop := (Date.Proper.lastStamp ht.1.proper).fits
  rw [render_eq]
  exact readBetween?_between (fun _ => readFields?_chars hstart _) fun _ => readFields?_chars hstop _

/-- A range over days holds the date-times of its days, except for those of a leap second
that ends the last day. -/
theorem holds_render_day_iff {s t x : DateTime} (hs : s.Valid) (ht : t.Valid) (hx : x.Valid) :
    Holds (render s t .day) x ↔
      ¬x.date.Before s.date ∧ ¬t.date.Before x.date ∧ ¬(x.date = t.date ∧ x.InClosingLeap) := by
  rw [holds_iff_of_readBounds? (readBounds?_render_day hs ht), Date.firstStamp_le_cut_iff,
    Date.cut_le_lastStamp_iff hx]

/-- **A range at day precision.**  There is one unless it ends before it starts.  It
holds the date-times of all days from that of the first bound to that of the last one,
and none of other days; but it does not hold those of a leap second that ends the last
day.  So it holds a bound unless this is one of those. -/
theorem holds_dates_day {s t : DateTime} (hs : s.Valid) (ht : t.Valid) (h : s ≤ t) :
    ∃ text, dates (.plain s) (.plain t) .day = .ok text ∧
      (∀ x : DateTime, x.Valid → (Holds text x ↔
        ¬x.date.Before s.date ∧ ¬t.date.Before x.date ∧
          ¬(x.date = t.date ∧ x.InClosingLeap))) ∧
      (Holds text s ↔ ¬(s.date = t.date ∧ s.InClosingLeap)) ∧
      (Holds text t ↔ ¬t.InClosingLeap) := by
  have hdate := DateTime.not_before_of_le h
  refine ⟨render s t .day, ?_, fun x hx => holds_render_day_iff hs ht hx, ?_, ?_⟩
  · rw [dates_plain, if_neg h]
  · rw [holds_render_day_iff hs ht hs]
    simp [Date.not_before_self, hdate]
  · rw [holds_render_day_iff hs ht ht]
    simp [Date.not_before_self, hdate]

/-- A leap second in the middle of a day. -/
def noonLeap : DateTime := ⟨⟨2015, 6, 30⟩, 12, 30, 59, 1000000001⟩

theorem holds_dates_day_noonLeap :
    noonLeap.Valid ∧ lastOrdinary.Valid ∧ noonLeap ≤ lastOrdinary ∧
      ∃ text, dates (.plain noonLeap) (.plain lastOrdinary) .day = .ok text ∧
        Holds text noonLeap ∧ Holds text lastOrdinary ∧ ¬Holds text closingLeap := by
  have hs : noonLeap.Valid := by decide
  have ht : lastOrdinary.Valid := by decide
  have hx : closingLeap.Valid := by decide
  have hle : noonLeap ≤ lastOrdinary := by decide
  obtain ⟨text, htext, hholds, hstart, hstop⟩ := holds_dates_day hs ht hle
  refine ⟨hs, ht, hle, text, htext, hstart.2 (by decide), hstop.2 (by decide), fun h => ?_⟩
  exact ((hholds closingLeap hx).1 h).2.2 (by decide)

/-- The range over the day that ends in a leap second does not hold its own bounds when
these lie in the leap second, though the range at millisecond precision does. -/
theorem not_holds_closingLeap :
    closingLeap.Valid ∧
      dates (.plain closingLeap) (.plain closingLeap) .day =
        .ok "[2016-12-31T00:00:00.000Z TO 2016-12-31T23:59:59.999Z]" ∧
      ¬Holds "[2016-12-31T00:00:00.000Z TO 2016-12-31T23:59:59.999Z]" closingLeap ∧
      dates (.plain closingLeap) (.plain closingLeap) .millisecond =
        .ok "[2016-12-31T23:59:60.500Z TO 2016-12-31T23:59:60.500Z]" ∧
      Holds "[2016-12-31T23:59:60.500Z TO 2016-12-31T23:59:60.500Z]" closingLeap := by
  have hvalid : closingLeap.Valid := by decide
  have hday : render closingLeap closingLeap .day =
      "[2016-12-31T00:00:00.000Z TO 2016-12-31T23:59:59.999Z]" := by decide +kernel
  have hmillis : render closingLeap closingLeap .millisecond =
      "[2016-12-31T23:59:60.500Z TO 2016-12-31T23:59:60.500Z]" := by decide +kernel
  have hread : readBounds? "[2016-12-31T23:59:60.500Z TO 2016-12-31T23:59:60.500Z]" =
      some (closingLeap.cut, closingLeap.cut) := by decide +kernel
  refine ⟨hvalid, ?_, ?_, ?_, ?_⟩
  · rw [dates_plain, if_neg (by decide), hday]
  · rw [← hday, holds_render_day_iff hvalid hvalid hvalid]
    exact fun h => h.2.2 ⟨rfl, by decide⟩
  · rw [dates_plain, if_neg (by decide), hmillis]
  · exact ⟨_, _, hread, le_rfl, le_rfl⟩

end Range

end SearchClient
