import SearchClient.Proofs.Query.Outline
import SearchClient.Query.Selector

/-!
# Lists of values read back

Nothing is quoted in the text of a list of values, but as long as no value holds a space,
the values can be found again.  A text without spaces is a single value, whatever it looks
like.  In any other text a pair of parentheses encloses words with spaces between them,
and they are a value and the word of the disjunction by turns; so a value that is this very
word does no harm, nor one that is empty.

## Main definitions

* `Alternatives.grouped`, `Alternatives.groupedWords` — values in parentheses, and the words
  between them.
* `Alternatives.values` — the values in a text.

## Main results

* `Alternatives.render_eq_grouped` — several values are grouped.
* `Alternatives.values_grouped` — grouped values are read back.
* `Alternatives.values_render` — **a list of values is read back from its text.**
-/

namespace SearchClient.Alternatives

/-! ### Texts of lists -/

/-- Values in parentheses, with the disjunction between them. -/
def grouped (vs : List String) : String := "(" ++ " OR ".intercalate vs ++ ")"

theorem separated_eq_intercalate (between : String) (vs : List String) :
    separated between vs = between.intercalate vs := by
  induction vs with
  | nil => rw [separated, String.intercalate_nil]
  | cons v vs ih =>
    cases vs with
    | nil => rw [separated, String.intercalate_singleton]
    | cons w vs => rw [separated, ih, String.intercalate_cons_cons]

@[simp] theorem render_singleton (v : String) : render [v] = .ok v := rfl

/-- **Several values are grouped.** -/
theorem render_eq_grouped (v w : String) (vs : List String) :
    render (v :: w :: vs) = .ok (grouped (v :: w :: vs)) := by
  rw [grouped, ← separated_eq_intercalate]
  rfl

/-- Only the empty list has no text. -/
theorem render_eq_error_iff {vs : List String} : render vs = .error .noValues ↔ vs = [] := by
  match vs with
  | [] => exact iff_of_true rfl rfl
  | [v] => exact iff_of_false nofun nofun
  | v :: w :: vs =>
    rw [render_eq_grouped]
    exact iff_of_false nofun nofun

theorem exists_render_iff {vs : List String} : (∃ text, render vs = .ok text) ↔ vs ≠ [] := by
  match vs with
  | [] => exact iff_of_false nofun fun hne => hne rfl
  | [v] => exact iff_of_true ⟨v, rfl⟩ nofun
  | v :: w :: vs => exact iff_of_true ⟨_, render_eq_grouped v w vs⟩ nofun

/-! ### Words of a grouped list -/

/-- A word with spaces around it between texts is a word by itself with spaces on both its
sides. -/
theorem intercalate_spaced (word : List Char) (ls : List (List Char)) :
    (' ' :: word ++ [' ']).intercalate ls = [' '].intercalate (ls.intersperse word) := by
  induction ls with
  | nil => rfl
  | cons l ls ih =>
    cases ls with
    | nil => rfl
    | cons m ls =>
      have hne : (m :: ls).intersperse word ≠ [] := by
        cases ls <;> simp [List.intersperse]
      rw [List.intercalate_cons_cons, ih, List.intersperse_cons_cons,
        List.intercalate_cons_cons, List.intercalate_cons_of_ne_nil hne]
      simp only [List.cons_append, List.nil_append, List.append_assoc]

/-- The words in the parentheses of a group. -/
def groupedWords (vs : List String) : List (List Char) :=
  (vs.map String.toList).intersperse Operator.or.word

theorem toList_grouped (vs : List String) :
    (grouped vs).toList = '(' :: ([' '].intercalate (groupedWords vs) ++ [')']) := by
  have hword := intercalate_spaced Operator.or.word (vs.map String.toList)
  rw [← Operator.toList_token] at hword
  rw [grouped, String.toList_append, String.toList_append, String.toList_intercalate,
    groupedWords, ← hword]
  rfl

theorem space_mem_grouped (v w : String) (vs : List String) :
    ' ' ∈ (grouped (v :: w :: vs)).toList := by
  simp [grouped, String.intercalate_cons_cons]

/-! ### Reading -/

/-- Every second member of a list, the first one included. -/
def everySecond {α : Type} : List α → List α
  | [] => []
  | [a] => [a]
  | a :: _ :: as => a :: everySecond as

theorem everySecond_intersperse {α : Type} (between : α) (as : List α) :
    everySecond (as.intersperse between) = as := by
  induction as with
  | nil => rfl
  | cons a as ih =>
    cases as with
    | nil => rfl
    | cons b as => rw [List.intersperse_cons_cons, everySecond, ih]

/-- The values in the text of a list.  With a space in it the text is that of several
values, and every second word in the parentheses is one of them. -/
def values (text : String) : List String :=
  if ' ' ∈ text.toList then
    (everySecond (text.toList.tail.dropLast.splitOn ' ')).map String.ofList
  else [text]

/-- No value holds a space. -/
def Spaceless (vs : List String) : Prop := ∀ v ∈ vs, ' ' ∉ v.toList

instance (vs : List String) : Decidable (Spaceless vs) :=
  inferInstanceAs (Decidable (∀ v ∈ vs, ' ' ∉ v.toList))

/-- No word of a group holds a space. -/
theorem Spaceless.notMem_groupedWords {vs : List String} (h : Spaceless vs) :
    ∀ l ∈ groupedWords vs, ' ' ∉ l := by
  induction vs with
  | nil => simp [groupedWords]
  | cons v vs ih =>
    have hv : ' ' ∉ v.toList := h v List.mem_cons_self
    have hvs : Spaceless vs := fun w hw => h w (List.mem_cons_of_mem v hw)
    cases vs with
    | nil => simpa [groupedWords] using hv
    | cons w vs =>
      rw [groupedWords, List.map_cons, List.map_cons, List.intersperse_cons_cons,
        List.forall_mem_cons, List.forall_mem_cons]
      exact ⟨hv, by decide, ih hvs⟩

/-- **Grouped values are read back.** -/
theorem values_grouped {v w : String} {vs : List String} (h : Spaceless (v :: w :: vs)) :
    values (grouped (v :: w :: vs)) = v :: w :: vs := by
  have hne : groupedWords (v :: w :: vs) ≠ [] := by
    rw [groupedWords, List.map_cons, List.map_cons, List.intersperse_cons_cons]
    exact List.cons_ne_nil _ _
  rw [values, if_pos (space_mem_grouped v w vs), toList_grouped, List.tail_cons,
    List.dropLast_concat, List.splitOn_intercalate ' ' h.notMem_groupedWords hne, groupedWords,
    everySecond_intersperse, List.map_map]
  exact (List.map_congr_left fun u _ => String.ofList_toList).trans (List.map_id _)

/-- The values are read back from the text of any list of them. -/
theorem values_of_render {vs : List String} (h : Spaceless vs) {text : String}
    (htext : render vs = .ok text) : values text = vs := by
  match vs, h, htext with
  | [v], h, htext =>
    rw [render_singleton, Except.ok.injEq] at htext
    rw [← htext]
    exact if_neg (h v List.mem_cons_self)
  | v :: w :: vs, h, htext =>
    rw [render_eq_grouped] at htext
    cases htext
    exact values_grouped h

/-- A clause over values with a text compares its field with this text. -/
theorem isOneOf_of_render {values : List Scalar} {text : String}
    (h : render (values.map Scalar.render) = .ok text) (s : Selector) :
    s.isOneOf values = .ok (s.complete text) := by
  rw [Selector.isOneOf, h]
  rfl

/-- **A list of values is read back from its text**, if there are any values and none of
them holds a space; and this text is what a clause over such values compares its field
with.  No other list without spaces has the same text. -/
theorem values_render {vs : List String} (hne : vs ≠ []) (h : Spaceless vs) :
    (∃ text, render vs = .ok text ∧ values text = vs ∧
      ∀ (s : Selector) (scalars : List Scalar), scalars.map Scalar.render = vs →
        s.isOneOf scalars = .ok (s.complete text)) ∧
    ∀ ws, Spaceless ws → (render ws = render vs ↔ ws = vs) := by
  obtain ⟨text, htext⟩ := exists_render_iff.2 hne
  refine ⟨⟨text, htext, values_of_render h htext, ?_⟩, fun ws hws => ⟨fun heq => ?_, ?_⟩⟩
  · rintro s scalars rfl
    exact isOneOf_of_render htext s
  · -- both lists are read back from the one text
    rw [← values_of_render h htext, values_of_render hws (heq.trans htext)]
  · rintro rfl
    rfl

/-- A single value that looks like several, and several of which some look like the words
and parentheses around them. -/
theorem values_render_lookalikes :
    Spaceless ["(aORb)"] ∧ Spaceless ["(", "OR", "", "OR", "a)"] ∧
      (∃ text, render ["(aORb)"] = .ok text ∧ values text = ["(aORb)"]) ∧
      (∃ text, render ["(", "OR", "", "OR", "a)"] = .ok text ∧
        values text = ["(", "OR", "", "OR", "a)"]) ∧
      render ["(aORb)"] ≠ render ["(", "OR", "", "OR", "a)"] := by
  have hone : Spaceless ["(aORb)"] := by decide
  have hmany : Spaceless ["(", "OR", "", "OR", "a)"] := by decide
  obtain ⟨⟨text, htext, hvalues, -⟩, -⟩ := values_render (List.cons_ne_nil _ _) hone
  obtain ⟨⟨text', htext', hvalues', -⟩, hinj⟩ := values_render (List.cons_ne_nil _ _) hmany
  refine ⟨hone, hmany, ⟨text, htext, hvalues⟩, ⟨text', htext', hvalues'⟩, fun heq => ?_⟩
  exact absurd ((hinj _ hone).1 heq) (by decide)

end SearchClient.Alternatives
