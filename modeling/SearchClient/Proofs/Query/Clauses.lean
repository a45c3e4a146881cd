import SearchClient.Proofs.Query.Built
import SearchClient.Proofs.Text.Marks

/-!
# Clauses told apart by their texts

Values are written verbatim, so a value may look like anything, the mark of exclusion and its
closing parenthesis included.  A clause without a lead is still told by its text, as long as
its field has no colon and does not begin with a parenthesis: only the mark of exclusion
begins with one, its closing parenthesis is the last character whatever the value ends in, and
the first colon of what is left is the one behind the field.

## Main definitions

* `Selector.Plain` — selectors whose fields cannot be taken for something else.
* `comparison`, `exclusion` — the characters of a comparison, and what stands before one that
  is excluded.

## Main results

* `comparison_inj` — a comparison is cut at its first colon.
* `Selector.render_complete_inj` — the text of a clause, the other parts being given.
* `Selector.render_eq_render_iff` — **the text of a clause determines the clause.**
-/

namespace SearchClient

/-! ### The characters of a clause -/

/-- The characters of a comparison of a field with a value. -/
def comparison (field value : String) : List Char := field.toList ++ ':' :: value.toList

/-- The characters before a comparison that is excluded. -/
def exclusion : List Char := ['(', '*', ':', '*', ' ', '-']

/-- **A comparison is cut at its first colon**, if no field has one. -/
theorem comparison_inj {f g v w : String} (hf : ':' ∉ f.toList) (hg : ':' ∉ g.toList) :
    comparison f v = comparison g w ↔ f = g ∧ v = w := by
  unfold comparison
  rw [append_cons_inj_of_first hf hg, String.toList_inj, String.toList_inj]

/-- A comparison begins with its field, or with the colon if the field is empty. -/
theorem head?_comparison (f v : String) :
    (comparison f v).head? = some (f.toList.head?.getD ':') := by
  unfold comparison
  cases f.toList with
  | nil => rfl
  | cons c cs => rfl

namespace Selector

/-- A selector without a lead whose field holds no colon and does not begin with a
parenthesis. -/
structure Plain (s : Selector) : Prop where
  /-- Nothing stands before the clause. -/
  lead : s.lead = none
  /-- The field holds no colon. -/
  colon : ':' ∉ s.field.toList
  /-- The field does not begin with a parenthesis. -/
  parenthesis : s.field.toList.head? ≠ some '('

variable {s t : Selector}

theorem toList_render_including (hs : s.Plain) (hx : s.excluded = false) (value : String) :
    (s.complete value).render.toList = comparison s.field value := by
  simp [complete, Leaf.render, comparison, hs.lead, hx, String.toList_append]

theorem toList_render_excluding (hs : s.Plain) (hx : s.excluded = true) (value : String) :
    (s.complete value).render.toList = exclusion ++ (comparison s.field value ++ [')']) := by
  simp [complete, Leaf.render, comparison, exclusion, matchAll, hs.lead, hx, String.toList_append]

/-- A comparison cannot be taken for the mark of exclusion: it begins with no parenthesis. -/
theorem Plain.render_ne (hs : s.Plain) (ht : t.Plain) (hx : s.excluded = false)
    (hy : t.excluded = true) (v w : String) :
    (s.complete v).render ≠ (t.complete w).render := by
  intro h
  have hhead : (comparison s.field v).head? = some '(' := by
    rw [← toList_render_including hs hx, h, toList_render_excluding ht hy]
    rfl
  rw [head?_comparison, Option.some.injEq] at hhead
  cases hfield : s.field.toList.head? with
  | none =>
    rw [hfield] at hhead
    exact absurd hhead (by decide)
  | some c =>
    rw [hfield, Option.getD_some] at hhead
    exact hs.parenthesis (hhead ▸ hfield)

/-- The texts of two clauses are equal exactly if the fields, the values and the marks of
exclusion are. -/
theorem render_complete_inj (hs : s.Plain) (ht : t.Plain) (v w : String) :
    (s.complete v).render = (t.complete w).render ↔
      s.field = t.field ∧ v = w ∧ s.excluded = t.excluded := by
  have hcomparison := comparison_inj hs.colon ht.colon (v := v) (w := w)
  cases hx : s.excluded with
  | false =>
    cases hy : t.excluded with
    | false =>
      rw [← String.toList_inj, toList_render_including hs hx, toList_render_including ht hy,
        hcomparison]
      simp
    | true => exact iff_of_false (hs.render_ne ht hx hy v w) (by simp)
  | true =>
    cases hy : t.excluded with
    | false => exact iff_of_false (ht.render_ne hs hy hx w v).symm (by simp)
    | true =>
      -- what the mark of exclusion encloses is the same
      rw [← String.toList_inj, toList_render_excluding hs hx, toList_render_excluding ht hy,
        List.append_cancel_left_eq, List.append_cancel_right_eq, hcomparison]
      simp

/-- The completions of a selector are its leaves with any text as their value. -/
theorem completes_iff (s : Selector) {q : Query} : s.Completes q ↔ ∃ v, q = s.complete v := by
  constructor
  · intro h
    exact h.eq_complete
  · rintro ⟨v, rfl⟩
    exact .is (.text v)

/-- **The text of a clause determines the clause.**  A selector can be completed with any text
as the value and in no other way, and two completions of plain selectors have one text exactly
if the fields, the values and the marks of exclusion are equal. -/
theorem render_eq_render_iff (hs : s.Plain) (ht : t.Plain) :
    (∀ q, s.Completes q ↔ ∃ v, q = s.complete v) ∧ (∀ r, t.Completes r ↔ ∃ w, r = t.complete w) ∧
    ∀ v w, (s.complete v).render = (t.complete w).render ↔
      s.field = t.field ∧ v = w ∧ s.excluded = t.excluded :=
  ⟨fun _ => completes_iff s, fun _ => completes_iff t, render_complete_inj hs ht⟩

/-- A value that ends in a parenthesis under an excluding selector, beside the value without
it, and beside an including selector. -/
theorem render_eq_render_iff_closing :
    (excluding "price").Plain ∧ (excludingIf false "price").Plain ∧
      ((excluding "price").complete "1)").render = "(*:* -price:1))" ∧
      ((excluding "price").complete "1)").render ≠ ((excluding "price").complete "1").render ∧
      ((excludingIf false "price").complete "1)").render ≠
        ((excluding "price").complete "1").render := by
  have hexcluding : (excluding "price").Plain := ⟨rfl, by decide, by decide⟩
  have hincluding : (excludingIf false "price").Plain := ⟨rfl, by decide, by decide⟩
  refine ⟨hexcluding, hincluding, by decide +kernel, fun h => ?_, fun h => ?_⟩
  · have hparts := ((render_eq_render_iff hexcluding hexcluding).2.2 _ _).1 h
    exact absurd hparts.2.1 (by decide)
  · have hparts := ((render_eq_render_iff hincluding hexcluding).2.2 _ _).1 h
    exact absurd hparts.2.1 (by decide)

end Selector

end SearchClient
