import Mathlib.Order.Bounds.Basic
import SearchClient.Proofs.Value.DateTimeRange

/-!
# The range over some dates

The smallest range that holds some dates is the range from the least of them to the
greatest.  Bounds of one kind are compared as they are given: counts of milliseconds as
numbers, date-times as date-times.  That the range is found by comparing the date-times
that the bounds stand for makes no difference, since a later count is a later date-time.

So the range depends on the set of the dates alone.  It fails for want of dates, or with
the error of the first bound that stands for no date-time, and never for its order.

## Main definitions

* `DateBound.kind`, `DateBound.instLE` — the kinds of bounds, and the order on each.
* `DateBound.Resolves` — the bounds that stand for a date-time.
* `Range.FirstError` — the error of the first bound that does not.

## Main results

* `Range.resolveAll_eq_error_iff` — which error comes first.
* `Range.spanning_eq_render` — the range over date-times, from the least to the greatest.
* `Range.spanning_of_kind` — **the range over dates of one kind.**
-/

namespace SearchClient

/-! ### Bounds -/

namespace DateBound

/-- The kinds of bounds. -/
inductive Kind
  /-- Counts of milliseconds. -/
  | millis
  /-- Date-times without a zone. -/
  | plain
  /-- Date-times in UTC. -/
  | utc
  deriving DecidableEq, Repr, Inhabited

/-- The kind of a bound. -/
def kind : DateBound → Kind
  | .millis _ => .millis
  | .plain _ => .plain
  | .utc _ => .utc

/-- Bounds of one kind are compared as they are given, and those of different kinds are
not comparable. -/
instance instLE : LE DateBound where
  le
    | .millis m, .millis n => m ≤ n
    | .plain s, .plain t => s ≤ t
    | .utc s, .utc t => s ≤ t
    | _, _ => False

/-- The bound stands for a date-time. -/
def Resolves (b : DateBound) : Prop := ∃ t, b.resolve = .ok t

theorem le_self (b : DateBound) : b ≤ b := by
  cases b with
  | millis n => exact le_refl n
  | plain t => exact le_refl t
  | utc t => exact le_refl t

/-- The only bounds without a date-time are counts out of range. -/
theorem eq_of_resolve_eq_error {b : DateBound} {e : ValueError} (h : b.resolve = .error e) :
    ∃ n, e = .timestampOutOfRange n := by
  cases b with
  | millis n =>
    rw [Range.resolve_millis] at h
    split at h
    · exact ⟨n, (Except.error.inj h).symm⟩
    · cases h
  | plain t => cases h
  | utc t => cases h

/-- A count of milliseconds that stands for a date-time stands for its own. -/
theorem eq_of_resolve_millis {n : ℤ} {t : DateTime} (h : (millis n).resolve = .ok t) :
    t = .ofEpochMillis n := by
  rw [Range.resolve_millis] at h
  split at h
  · cases h
  · exact (Except.ok.inj h).symm

/-- **Bounds of one kind are in the order of their date-times.** -/
theorem le_iff_of_resolve {b c : DateBound} (hkind : b.kind = c.kind) {s t : DateTime}
    (hs : b.resolve = .ok s) (ht : c.resolve = .ok t) : b ≤ c ↔ s ≤ t := by
  cases b with
  | millis m =>
    cases c with
    | millis n =>
      rw [eq_of_resolve_millis hs, eq_of_resolve_millis ht, DateTime.le_def,
        DateTime.ofEpochMillis_lt_ofEpochMillis_iff, not_lt]
      rfl
    | plain t => cases hkind
    | utc t => cases hkind
  | plain s =>
    cases c with
    | millis n => cases hkind
    | plain t =>
      cases hs
      cases ht
      rfl
    | utc t => cases hkind
  | utc s =>
    cases c with
    | millis n => cases hkind
    | plain t => cases hkind
    | utc t =>
      cases hs
      cases ht
      rfl

end DateBound

namespace Range

/-! ### All bounds at once -/

/-- The error of the first bound that stands for no date-time. -/
def FirstError (bounds : List DateBound) (e : ValueError) : Prop :=
  ∃ before b after, bounds = before ++ b :: after ∧ (∀ c ∈ before, c.Resolves) ∧
    b.resolve = .error e

theorem firstError_cons_of_error {b : DateBound} {e e' : ValueError} (h : b.resolve = .error e')
    (bounds : List DateBound) : FirstError (b :: bounds) e ↔ e' = e := by
  constructor
  · rintro ⟨before, c, after, hsplit, hbefore, hc⟩
    cases before with
    | nil =>
      obtain ⟨rfl, -⟩ := List.cons.inj hsplit
      exact Except.error.inj (h.symm.trans hc)
    | cons c' before =>
      -- the first bound would have to stand for a date-time
      obtain ⟨rfl, -⟩ := List.cons.inj hsplit
      obtain ⟨t, ht⟩ := hbefore b List.mem_cons_self
      cases h.symm.trans ht
  · rintro rfl
    exact ⟨[], b, bounds, rfl, by simp, h⟩

theorem firstError_cons_of_ok {b : DateBound} {t : DateTime} (h : b.resolve = .ok t)
    {bounds : List DateBound} {e : ValueError} :
    FirstError (b :: bounds) e ↔ FirstError bounds e := by
  constructor
  · rintro ⟨before, c, after, hsplit, hbefore, hc⟩
    cases before with
    | nil =>
      obtain ⟨rfl, -⟩ := List.cons.inj hsplit
      cases h.symm.trans hc
    | cons c' before =>
      obtain ⟨rfl, rfl⟩ := List.cons.inj hsplit
      exact ⟨before, c, after, rfl, (List.forall_mem_cons.1 hbefore).2, hc⟩
  · rintro ⟨before, c, after, rfl, hbefore, hc⟩
    exact ⟨b :: before, c, after, rfl, List.forall_mem_cons.2 ⟨⟨t, h⟩, hbefore⟩, hc⟩

theorem resolveAll_cons_of_error {b : DateBound} {e : ValueError} (h : b.resolve = .error e)
    (bounds : List DateBound) : resolveAll (b :: bounds) = .error e := by
  rw [resolveAll, h]
  rfl

theorem resolveAll_cons_of_ok {b : DateBound} {t : DateTime} (h : b.resolve = .ok t)
    (bounds : List DateBound) :
    resolveAll (b :: bounds) = (resolveAll bounds).map (t :: ·) := by
  rw [resolveAll, h]
  cases resolveAll bounds <;> rfl

/-- **The first bound without a date-time decides the error.** -/
theorem resolveAll_eq_error_iff {bounds : List DateBound} {e : ValueError} :
    resolveAll bounds = .error e ↔ FirstError bounds e := by
  induction bounds with
  | nil =>
    constructor
    · intro h
      cases h
    · rintro ⟨before, b, after, hsplit, -, -⟩
      cases before <;> cases hsplit
  | cons b bounds ih =>
    cases hb : b.resolve with
    | error e' =>
      rw [resolveAll_cons_of_error hb, firstError_cons_of_error hb, Except.error.injEq]
    | ok t =>
      rw [resolveAll_cons_of_ok hb, firstError_cons_of_ok hb, ← ih]
      cases resolveAll bounds <;> simp [Except.map]

/-- Bounds that stand for date-times do so one by one. -/
theorem forall₂_of_resolveAll {bounds : List DateBound} {ts : List DateTime}
    (h : resolveAll bounds = .ok ts) :
    List.Forall₂ (fun b t => b.resolve = .ok t) bounds ts := by
  induction bounds generalizing ts with
  | nil =>
    cases h
    exact .nil
  | cons b bounds ih =>
    cases hb : b.resolve with
    | error e =>
      rw [resolveAll_cons_of_error hb] at h
      cases h
    | ok t =>
      rw [resolveAll_cons_of_ok hb] at h
      cases hrest : resolveAll bounds with
      | error e =>
        rw [hrest] at h
        cases h
      | ok ts =>
        rw [hrest] at h
        cases h
        exact .cons hb (ih hrest)

/-- The date-times are those that the bounds stand for. -/
theorem mem_iff_of_resolveAll {bounds : List DateBound} {ts : List DateTime}
    (h : resolveAll bounds = .ok ts) {t : DateTime} :
    t ∈ ts ↔ ∃ b ∈ bounds, b.resolve = .ok t := by
  have hall := forall₂_of_resolveAll h
  clear h
  induction hall with
  | nil => simp
  | cons hb _ ih => simp [hb, ih, eq_comm]

/-- What is said of all date-times is said of all bounds. -/
theorem forall_mem_iff_of_resolveAll {bounds : List DateBound} {ts : List DateTime}
    (h : resolveAll bounds = .ok ts) {P : DateBound → Prop} {Q : DateTime → Prop}
    (hPQ : ∀ b ∈ bounds, ∀ t, b.resolve = .ok t → (P b ↔ Q t)) :
    (∀ b ∈ bounds, P b) ↔ ∀ t ∈ ts, Q t := by
  have hall := forall₂_of_resolveAll h
  clear h
  induction hall with
  | nil => simp
  | cons hb _ ih =>
    rw [List.forall_mem_cons] at hPQ
    rw [List.forall_mem_cons, List.forall_mem_cons]
    exact and_congr (hPQ.1 _ hb) (ih hPQ.2)

/-- Bounds that stand for date-times together all do. -/
theorem forall_resolves_of_resolveAll {bounds : List DateBound} {ts : List DateTime}
    (h : resolveAll bounds = .ok ts) : ∀ b ∈ bounds, b.Resolves := by
  have hall := forall₂_of_resolveAll h
  clear h
  induction hall with
  | nil => simp
  | cons hb _ ih => exact List.forall_mem_cons.2 ⟨⟨_, hb⟩, ih⟩

/-- If all bounds stand for date-times, they do so together. -/
theorem exists_resolveAll {bounds : List DateBound} (h : ∀ b ∈ bounds, b.Resolves) :
    ∃ ts, resolveAll bounds = .ok ts := by
  cases hall : resolveAll bounds with
  | ok ts => exact ⟨ts, rfl⟩
  | error e =>
    obtain ⟨before, b, after, rfl, -, hb⟩ := resolveAll_eq_error_iff.1 hall
    obtain ⟨t, ht⟩ := h b (by simp)
    cases hb.symm.trans ht

/-! ### The least and the greatest -/

theorem isLeast_foldl_earlier (t : DateTime) (ts : List DateTime) :
    IsLeast {x | x ∈ t :: ts} (ts.foldl DateTime.earlier t) := by
  have hmin : DateTime.earlier = min := funext₂ DateTime.earlier_eq_min
  rw [hmin]
  exact List.min?_eq_some_iff.1 List.min?_cons'

theorem isGreatest_foldl_later (t : DateTime) (ts : List DateTime) :
    IsGreatest {x | x ∈ t :: ts} (ts.foldl DateTime.later t) := by
  have hmax : DateTime.later = max := funext₂ DateTime.later_eq_max
  rw [hmax]
  exact List.max?_eq_some_iff.1 List.max?_cons'

/-- **The range over some date-times is that from the least to the greatest.** -/
theorem spanning_eq_render {bounds : List DateBound} {ts : List DateTime}
    (h : resolveAll bounds = .ok ts) {s t : DateTime} (hs : IsLeast {x | x ∈ ts} s)
    (ht : IsGreatest {x | x ∈ ts} t) (precision : Precision) :
    spanning bounds precision = .ok (render s t precision) := by
  unfold spanning
  rw [h]
  cases ts with
  | nil => exact absurd hs.1 List.not_mem_nil
  | cons x ts =>
    rw [hs.unique (isLeast_foldl_earlier x ts), ht.unique (isGreatest_foldl_later x ts)]
    rfl

/-- The error is not for want of dates, nor for their order. -/
theorem FirstError.exists_eq {bounds : List DateBound} {e : ValueError}
    (h : FirstError bounds e) : ∃ n, e = .timestampOutOfRange n := by
  obtain ⟨before, b, after, -, -, hb⟩ := h
  exact DateBound.eq_of_resolve_eq_error hb

/-- **When there is no range over some dates.** -/
theorem spanning_eq_error_iff {bounds : List DateBound} {precision : Precision}
    {e : ValueError} :
    spanning bounds precision = .error e ↔ bounds = [] ∧ e = .noDates ∨ FirstError bounds e := by
  rw [← resolveAll_eq_error_iff]
  cases bounds with
  | nil => simp [spanning, resolveAll, bind, Except.bind, eq_comm]
  | cons b bounds =>
    unfold spanning
    cases hts : resolveAll (b :: bounds) with
    | error e' => simp [bind, Except.bind]
    | ok ts =>
      cases forall₂_of_resolveAll hts with
      | cons _ _ => simp [bind, Except.bind]

/-- The range over some dates depends on the set of these alone. -/
theorem spanning_congr {bounds bounds' : List DateBound} (h : ∀ b ∈ bounds, b.Resolves)
    (hmem : ∀ b, b ∈ bounds' ↔ b ∈ bounds) (precision : Precision) :
    spanning bounds' precision = spanning bounds precision := by
  have h' : ∀ b ∈ bounds', b.Resolves := fun b hb => h b ((hmem b).1 hb)
  obtain ⟨ts, hts⟩ := exists_resolveAll h
  obtain ⟨ts', hts'⟩ := exists_resolveAll h'
  have htimes (x : DateTime) : x ∈ ts' ↔ x ∈ ts := by
    rw [mem_iff_of_resolveAll hts, mem_iff_of_resolveAll hts']
    simp only [hmem]
  cases ts with
  | nil =>
    -- no dates on either side
    obtain rfl : bounds = [] := by
      cases forall₂_of_resolveAll hts
      rfl
    obtain rfl : bounds' = [] := List.eq_nil_iff_forall_not_mem.2 fun b hb => by
      simpa using (hmem b).1 hb
    rfl
  | cons t ts =>
    have hset : {x | x ∈ t :: ts} = {x | x ∈ ts'} := Set.ext fun x => (htimes x).symm
    have hlo := isLeast_foldl_earlier t ts
    have hhi := isGreatest_foldl_later t ts
    rw [spanning_eq_render hts hlo hhi, spanning_eq_render hts' (hset ▸ hlo) (hset ▸ hhi)]

/-- Of two bounds in order, one is the least and the other one the greatest. -/
theorem isLeast_isGreatest_pair {bounds : List DateBound} {b c : DateBound} (h : b ≤ c)
    (hbounds : bounds = [b, c] ∨ bounds = [c, b]) :
    IsLeast {x | x ∈ bounds} b ∧ IsGreatest {x | x ∈ bounds} c := by
  have hmem (x : DateBound) : x ∈ bounds ↔ x = b ∨ x = c := by
    rcases hbounds with rfl | rfl
    · simp
    · simp [or_comm]
  have hlower : ∀ x ∈ bounds, b ≤ x := by
    intro x hx
    rcases (hmem x).1 hx with rfl | rfl
    · exact x.le_self
    · exact h
  have hupper : ∀ x ∈ bounds, x ≤ c := by
    intro x hx
    rcases (hmem x).1 hx with rfl | rfl
    · exact h
    · exact x.le_self
  exact ⟨⟨(hmem b).2 (.inl rfl), hlower⟩, ⟨(hmem c).2 (.inr rfl), hupper⟩⟩

/-! ### Dates of one kind -/

section OneKind

variable {bounds : List DateBound} (hkind : ∀ b ∈ bounds, ∀ c ∈ bounds, b.kind = c.kind)
include hkind

variable {ts : List DateTime} (hts : resolveAll bounds = .ok ts)
include hts

/-- The least bound stands for the least date-time. -/
theorem isLeast_iff_of_resolve {b : DateBound} (hb : b ∈ bounds) {t : DateTime}
    (ht : b.resolve = .ok t) : IsLeast {c | c ∈ bounds} b ↔ IsLeast {x | x ∈ ts} t := by
  have hmem : t ∈ ts := (mem_iff_of_resolveAll hts).2 ⟨b, hb, ht⟩
  apply and_congr (iff_of_true hb hmem)
  apply forall_mem_iff_of_resolveAll hts
  intro c hc x hx
  exact DateBound.le_iff_of_resolve (hkind b hb c hc) ht hx

/-- The greatest bound stands for the greatest date-time. -/
theorem isGreatest_iff_of_resolve {b : DateBound} (hb : b ∈ bounds) {t : DateTime}
    (ht : b.resolve = .ok t) : IsGreatest {c | c ∈ bounds} b ↔ IsGreatest {x | x ∈ ts} t := by
  have hmem : t ∈ ts := (mem_iff_of_resolveAll hts).2 ⟨b, hb, ht⟩
  apply and_congr (iff_of_true hb hmem)
  apply forall_mem_iff_of_resolveAll hts
  intro c hc x hx
  exact DateBound.le_iff_of_resolve (hkind c hc b hb) hx ht

/-- There are a least and a greatest bound. -/
theorem exists_isLeast_isGreatest (hne : bounds ≠ []) :
    ∃ lo hi, IsLeast {b | b ∈ bounds} lo ∧ IsGreatest {b | b ∈ bounds} hi := by
  obtain ⟨t, ts', rfl⟩ : ∃ t ts', ts = t :: ts' := by
    cases forall₂_of_resolveAll hts with
    | nil => exact absurd rfl hne
    | cons _ _ => exact ⟨_, _, rfl⟩
  have hlo := isLeast_foldl_earlier t ts'
  have hhi := isGreatest_foldl_later t ts'
  obtain ⟨lo, hlomem, hlotime⟩ := (mem_iff_of_resolveAll hts).1 hlo.1
  obtain ⟨hi, himem, hitime⟩ := (mem_iff_of_resolveAll hts).1 hhi.1
  exact ⟨lo, hi, (isLeast_iff_of_resolve hkind hts hlomem hlotime).2 hlo,
    (isGreatest_iff_of_resolve hkind hts himem hitime).2 hhi⟩

/-- The range over some dates is the range between the least and the greatest. -/
theorem exists_spanning_eq {lo hi : DateBound} (hlo : IsLeast {b | b ∈ bounds} lo)
    (hhi : IsGreatest {b | b ∈ bounds} hi) (precision : Precision) :
    ∃ text, dates lo hi precision = .ok text ∧ spanning bounds precision = .ok text := by
  have hresolves := forall_resolves_of_resolveAll hts
  obtain ⟨s, hs⟩ := hresolves lo hlo.1
  obtain ⟨t, ht⟩ := hresolves hi hhi.1
  have hsleast := (isLeast_iff_of_resolve hkind hts hlo.1 hs).1 hlo
  have htgreatest := (isGreatest_iff_of_resolve hkind hts hhi.1 ht).1 hhi
  have hle : s ≤ t := hsleast.2 htgreatest.1
  refine ⟨render s t precision, ?_, spanning_eq_render hts hsleast htgreatest precision⟩
  rw [dates_of_resolve hs ht, if_neg hle]

end OneKind

/-- **The range over dates of one kind.**  There is none for want of dates, or because of
the first of them that stands for no date-time, but never because of their order.  Of
dates that all stand for date-times, it is the range between the least and the greatest;
it depends on the set of the dates alone; and of two dates, in either order, it is the
range from the one that is not later to the other. -/
theorem spanning_of_kind {bounds : List DateBound}
    (hkind : ∀ b ∈ bounds, ∀ c ∈ bounds, b.kind = c.kind) (precision : Precision) :
    (spanning bounds precision = .error .noDates ↔ bounds = []) ∧
    (∀ e, spanning bounds precision = .error e ↔
      bounds = [] ∧ e = .noDates ∨ FirstError bounds e) ∧
    (∀ s t, spanning bounds precision ≠ .error (.invertedRange s t)) ∧
    ((∀ b ∈ bounds, b.Resolves) →
      (bounds ≠ [] → ∃ lo hi, IsLeast {b | b ∈ bounds} lo ∧ IsGreatest {b | b ∈ bounds} hi) ∧
      (∀ lo hi, IsLeast {b | b ∈ bounds} lo → IsGreatest {b | b ∈ bounds} hi →
        ∃ text, dates lo hi precision = .ok text ∧ spanning bounds precision = .ok text) ∧
      (∀ bounds', (∀ b, b ∈ bounds' ↔ b ∈ bounds) →
        spanning bounds' precision = spanning bounds precision) ∧
      ∀ b c, b ≤ c → bounds = [b, c] ∨ bounds = [c, b] →
        spanning bounds precision = dates b c precision) := by
  have hnever {e : ValueError} (he : ∀ n, e ≠ .timestampOutOfRange n) :
      ¬FirstError bounds e := by
    intro h
    obtain ⟨n, hn⟩ := h.exists_eq
    exact he n hn
  refine ⟨?_, fun e => spanning_eq_error_iff, ?_, ?_⟩
  · rw [spanning_eq_error_iff]
    simp [hnever]
  · intro s t
    rw [Ne, spanning_eq_error_iff]
    simp [hnever]
  · intro hresolves
    obtain ⟨ts, hts⟩ := exists_resolveAll hresolves
    have hspan (lo hi : DateBound) (hlo : IsLeast {b | b ∈ bounds} lo)
        (hhi : IsGreatest {b | b ∈ bounds} hi) :=
      exists_spanning_eq hkind hts hlo hhi precision
    refine ⟨exists_isLeast_isGreatest hkind hts, hspan, ?_, ?_⟩
    · intro bounds' hmem
      exact spanning_congr hresolves hmem precision
    · intro b c hle hbounds
      obtain ⟨hlo, hhi⟩ := isLeast_isGreatest_pair hle hbounds
      obtain ⟨text, hdates, hspanning⟩ := hspan b c hlo hhi
      rw [hspanning, hdates]

/-- Two leap seconds, the later one before and behind the earlier one. -/
def repeatedLeap : List DateBound := [.utc closingLeap, .utc noonLeap, .utc closingLeap]

theorem spanning_repeatedLeap :
    (∀ b ∈ repeatedLeap, ∀ c ∈ repeatedLeap, b.kind = c.kind) ∧
      (∀ b ∈ repeatedLeap, b.Resolves) ∧
      IsLeast {b | b ∈ repeatedLeap} (.utc noonLeap) ∧
      IsGreatest {b | b ∈ repeatedLeap} (.utc closingLeap) ∧
      ∃ text, dates (.utc noonLeap) (.utc closingLeap) .millisecond = .ok text ∧
        spanning repeatedLeap .millisecond = .ok text := by
  have hkind : ∀ b ∈ repeatedLeap, ∀ c ∈ repeatedLeap, b.kind = c.kind := by decide
  have hresolves : ∀ b ∈ repeatedLeap, b.Resolves := by
    simp [repeatedLeap, DateBound.Resolves, DateBound.resolve]
  have hle : noonLeap ≤ closingLeap := by decide
  have hbetween : ∀ b ∈ repeatedLeap, .utc noonLeap ≤ b ∧ b ≤ .utc closingLeap :=
    List.forall_mem_cons.2 ⟨⟨hle, DateBound.le_self _⟩,
      List.forall_mem_cons.2 ⟨⟨DateBound.le_self _, hle⟩,
        List.forall_mem_singleton.2 ⟨hle, DateBound.le_self _⟩⟩⟩
  have hlo : IsLeast {b | b ∈ repeatedLeap} (.utc noonLeap) :=
    ⟨by decide, fun b hb => (hbetween b hb).1⟩
  have hhi : IsGreatest {b | b ∈ repeatedLeap} (.utc closingLeap) :=
    ⟨by decide, fun b hb => (hbetween b hb).2⟩
  obtain ⟨-, -, -, hall⟩ := spanning_of_kind hkind .millisecond
  obtain ⟨-, hspanning, -⟩ := hall hresolves
  exact ⟨hkind, hresolves, hlo, hhi, hspanning _ _ hlo hhi⟩

end Range

end SearchClient
