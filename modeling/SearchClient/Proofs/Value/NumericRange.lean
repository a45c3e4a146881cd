import SearchClient.Proofs.Decimal.Signed
import SearchClient.Proofs.Value.DateRange
import SearchClient.Query.Selector

/-!
# Numeric ranges read back

A bound is an asterisk or a numeral, and -1, which an asterisk stands for, is never written as
a numeral.  So each bound has one spelling and can be read back, however large it is and
whatever the other bound is, and the documents without a value in a field are those outside
the one range that is open on both sides.

## Main definitions

* `Range.SpellsBound` — the texts of bounds.
* `Range.boundValue?`, `Range.readBound?`, `Range.readNumeric?` — bounds and ranges read.

## Main results

* `Range.spellsBound_iff` — **a bound has one spelling.**
* `Range.readNumeric?_numeric` — **a numeric range is read back.**
* `Range.numeric_spelling_and_reading` — both, for a range and for the clause of absence.
-/

namespace SearchClient.Range

open Decimal

/-! ### Spelling -/

/-- The texts that spell a bound: an asterisk for -1, and for any other number its digits,
without zeros in front and with a minus sign if it is below zero. -/
inductive SpellsBound : List Char → ℤ → Prop
  /-- An open bound. -/
  | unbounded : SpellsBound ['*'] (-1)
  /-- A number. -/
  | number {cs : List Char} {n : ℤ} (h : Spells cs n) (hne : cs ≠ ['-', '1']) : SpellsBound cs n

theorem bound_openBound : bound (-1) = ['*'] := rfl

theorem bound_of_ne {n : ℤ} (h : n ≠ -1) : bound n = signed n := if_neg h

theorem signed_openBound : signed (-1) = ['-', '1'] := by decide +kernel

/-- **A bound has one spelling.** -/
theorem spellsBound_iff {cs : List Char} {n : ℤ} : SpellsBound cs n ↔ cs = bound n := by
  constructor
  · intro h
    cases h with
    | unbounded => rfl
    | number h hne =>
      rw [spells_iff] at h
      rw [bound_of_ne]
      · exact h
      · rintro rfl
        exact hne (h.trans signed_openBound)
  · rintro rfl
    by_cases hn : n = -1
    · rw [hn, bound_openBound]
      exact .unbounded
    · rw [bound_of_ne hn]
      refine .number (spells_signed n) fun h => hn (signed_injective ?_)
      rw [h, signed_openBound]

theorem between_toList (a b : String) :
    between a.toList b.toList = "[" ++ a ++ " TO " ++ b ++ "]" := by
  rw [← String.toList_inj]
  simp [between, String.toList_append]

/-- **The texts of numeric ranges**: two spelled bounds in brackets. -/
theorem eq_numeric_iff {text : String} {start stop : ℤ} :
    text = numeric start stop ↔ ∃ a b : String, text = "[" ++ a ++ " TO " ++ b ++ "]" ∧
      SpellsBound a.toList start ∧ SpellsBound b.toList stop := by
  constructor
  · rintro rfl
    refine ⟨.ofList (bound start), .ofList (bound stop), ?_, ?_, ?_⟩
    · rw [← between_toList, String.toList_ofList, String.toList_ofList, numeric]
    · rw [String.toList_ofList, spellsBound_iff]
    · rw [String.toList_ofList, spellsBound_iff]
  · rintro ⟨a, b, rfl, ha, hb⟩
    rw [spellsBound_iff] at ha hb
    rw [← between_toList, ha, hb, numeric]

/-! ### Reading -/

/-- The number that the text of a bound stands for. -/
def boundValue? (cs : List Char) : Option ℤ := if cs = ['*'] then some (-1) else signedValue? cs

/-- The characters of a bound in front of what follows it. -/
def inBound (c : Char) : Bool := c != ' ' && c != ']'

/-- The bound at the front of a text, and what follows it. -/
def readBound? (cs : List Char) : Option (ℤ × List Char) :=
  (boundValue? (cs.takeWhile inBound)).map fun n => (n, cs.dropWhile inBound)

/-- The bounds between the brackets of a range. -/
def readNumeric? (text : String) : Option (ℤ × ℤ) := readBetween? readBound? text

/-- A bound consists of an asterisk or of digits and a minus sign. -/
theorem mem_bound {c : Char} {n : ℤ} (h : c ∈ bound n) : c = '*' ∨ c = '-' ∨ IsDigit c := by
  by_cases hn : n = -1
  · rw [hn, bound_openBound] at h
    exact .inl (List.mem_singleton.1 h)
  · rw [bound_of_ne hn] at h
    exact .inr (mem_signed h)

theorem boundValue?_bound (n : ℤ) : boundValue? (bound n) = some n := by
  unfold boundValue?
  by_cases hn : n = -1
  · rw [hn, bound_openBound]
    rfl
  · -- no numeral is an asterisk
    have hne : bound n ≠ ['*'] := by
      rw [bound_of_ne hn]
      intro h
      have hmem := mem_signed (h ▸ List.mem_singleton_self '*')
      exact absurd hmem (by decide)
    rw [if_neg hne, bound_of_ne hn, signedValue?_signed]

/-- A bound is read back in front of any character that no bound has. -/
theorem readBound?_bound (n : ℤ) {c : Char} (hc : inBound c = false) (rest : List Char) :
    readBound? (bound n ++ c :: rest) = some (n, c :: rest) := by
  have hbound : ∀ d ∈ bound n, inBound d = true := by
    intro d hd
    unfold inBound
    rw [Bool.and_eq_true, bne_iff_ne, bne_iff_ne]
    refine ⟨?_, ?_⟩
    · rintro rfl
      exact absurd (mem_bound hd) (by decide)
    · rintro rfl
      exact absurd (mem_bound hd) (by decide)
  unfold readBound?
  rw [List.takeWhile_append_of_pos hbound, List.dropWhile_append_of_pos hbound,
    List.takeWhile_cons_of_neg (by simp [hc]), List.dropWhile_cons_of_neg (by simp [hc]),
    List.append_nil, boundValue?_bound]
  rfl

/-- **A numeric range is read back.** -/
theorem readNumeric?_numeric (start stop : ℤ) :
    readNumeric? (numeric start stop) = some (start, stop) :=
  readBetween?_between (fun _ => readBound?_bound start rfl _) fun _ => readBound?_bound stop rfl _

theorem numeric_inj {start stop start' stop' : ℤ} :
    numeric start stop = numeric start' stop' ↔ start = start' ∧ stop = stop' := by
  have hinj : Function.Injective fun p : ℤ × ℤ => numeric p.1 p.2 :=
    injective_of_read fun p => readNumeric?_numeric p.1 p.2
  constructor
  · intro h
    exact Prod.mk.inj (@hinj (start, stop) (start', stop') h)
  · rintro ⟨rfl, rfl⟩
    rfl

/-! ### Absence -/

theorem isWithin_inj {s : Selector} {start stop start' stop' : ℤ} :
    s.isWithin start stop = s.isWithin start' stop' ↔ start = start' ∧ stop = stop' := by
  rw [← numeric_inj]
  simp [Selector.isWithin, Selector.complete]

/-- **Numeric ranges are spelled in one way and read back.**  The text of a range is that of its
two bounds in brackets, each an asterisk for -1 or the digits of any other number, and no other
text; the bounds are read back from it, so different ranges have different texts.  The
documents without a value in a field are those outside the range from -1 to -1, and no other
range says the same. -/
theorem numeric_spelling_and_reading :
    (∀ start stop : ℤ, readNumeric? (numeric start stop) = some (start, stop) ∧
      (∀ text : String, text = numeric start stop ↔
        ∃ a b : String, text = "[" ++ a ++ " TO " ++ b ++ "]" ∧
          SpellsBound a.toList start ∧ SpellsBound b.toList stop) ∧
      ∀ start' stop', numeric start stop = numeric start' stop' ↔
        start = start' ∧ stop = stop') ∧
    ∀ field, Query.absent field = .leaf ⟨none, field, "[* TO *]", true⟩ ∧
      ∀ start stop, (Selector.excluding field).isWithin start stop = Query.absent field ↔
        start = -1 ∧ stop = -1 := by
  refine ⟨fun start stop => ⟨readNumeric?_numeric start stop, fun text => eq_numeric_iff,
    fun start' stop' => numeric_inj⟩, fun field => ⟨?_, fun start stop => isWithin_inj⟩⟩
  have hopen : numeric (-1) (-1) = "[* TO *]" := by decide +kernel
  rw [← hopen]
  rfl

/-- The widest range of numbers of 64 bits. -/
example : numeric (-9223372036854775808) 9223372036854775807 =
    "[-9223372036854775808 TO 9223372036854775807]" := by decide +kernel

end SearchClient.Range
