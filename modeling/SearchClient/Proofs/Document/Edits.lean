import Mathlib.Data.List.Induction
import SearchClient.Document.Draft

/-!
# Runs of edits

What a field of a document holds is decided by the last edit that had an effect on
it.  An edit has at most one effect, on the field it names, and whether it has one
is seen from the edit and the kind of the draft alone: it does not matter what the
draft holds.

## Main definitions

* `Edit.effect?` — the field that an edit replaces, and what the field holds then.
* `Edit.rejection?` — the error of an edit that fails.
* `lastEffect?` — what the last effective edit of a field has put there.
* `IsChange` — objects with one member, under the name of a modifier.

## Main results

* `Draft.apply_eq` — what one edit does, to any draft.
* `Draft.get?_run` — what a field of a draft holds after a run.
* `Draft.finish_run` — **the document that a run of edits makes.**
-/

namespace SearchClient

/-! ### What an edit does -/

/-- A value as a change keeps it: no value at all for an empty list. -/
def Json.orCleared : Json → Json
  | .array [] => .null
  | v => v

/-- An object with one member, which stands under the name of a modifier and is no
empty list. -/
def IsChange (v : Json) : Prop :=
  ∃ (m : Modifier) (w : Json), v = .object [(m.name, w)] ∧ w ≠ .array []

namespace Edit

/-- The field that an edit replaces, and what the field holds then; nothing if the
edit has no effect. -/
def effect? : DraftKind → Edit → Option (String × Json)
  | .new, .set f v => some (f, v)
  | .new, .add _ _ => none
  | .new, .modify _ _ _ => none
  | .update, .set _ .null => none
  | .update, .set f v => some (f, .object [(Modifier.set.name, v.orCleared)])
  | .update, .add f v => some (f, .object [(Modifier.add.name, v.orCleared)])
  | .update, .modify f m v => some (f, .object [(m.name, v.orCleared)])

/-- The error of an edit that fails: a new document takes no changes. -/
def rejection? : DraftKind → Edit → Option DocumentError
  | .new, .add f _ => some (.modifierOnNew .add f)
  | .new, .modify f m _ => some (.modifierOnNew m f)
  | _, _ => none

/-- What an edit puts into one field. -/
def effectOn? (kind : DraftKind) (f : String) (e : Edit) : Option Json :=
  (e.effect? kind).bind fun (g, v) => if f = g then some v else none

end Edit

/-- What the last effective edit of a field has put there. -/
def lastEffect? (kind : DraftKind) (edits : List Edit) (f : String) : Option Json :=
  edits.reverse.findSome? (Edit.effectOn? kind f)

/-- The last edit comes first. -/
theorem lastEffect?_concat (kind : DraftKind) (edits : List Edit) (e : Edit) (f : String) :
    lastEffect? kind (edits ++ [e]) f =
      (e.effectOn? kind f).or (lastEffect? kind edits f) := by
  unfold lastEffect?
  rw [List.reverse_append, List.reverse_singleton, List.singleton_append, List.findSome?_cons]
  cases e.effectOn? kind f with
  | none => rfl
  | some v => rfl

/-! ### Changes -/

theorem Json.orCleared_ne_nil (v : Json) : v.orCleared ≠ .array [] := by
  unfold orCleared
  split
  · intro h
    cases h
  · next h => exact h

theorem Modifier.change_eq (m : Modifier) (v : Json) :
    m.change v = .object [(m.name, v.orCleared)] := by
  cases v with
  | array vs => cases vs <;> rfl
  | _ => rfl

theorem isChange_orCleared (m : Modifier) (v : Json) :
    IsChange (.object [(m.name, v.orCleared)]) :=
  ⟨m, v.orCleared, rfl, v.orCleared_ne_nil⟩

/-- An update holds changes wherever it was edited. -/
theorem Edit.isChange_of_effect? {e : Edit} {f : String} {v : Json}
    (h : e.effect? .update = some (f, v)) : IsChange v := by
  cases e with
  | set g w =>
    cases w with
    | null => cases h
    | _ =>
      cases h
      exact isChange_orCleared _ _
  | add g w =>
    cases h
    exact isChange_orCleared _ _
  | modify g m w =>
    cases h
    exact isChange_orCleared _ _

theorem isChange_of_lastEffect? {edits : List Edit} {f : String} {v : Json}
    (h : lastEffect? .update edits f = some v) : IsChange v := by
  obtain ⟨e, -, he⟩ := List.exists_of_findSome?_eq_some h
  obtain ⟨⟨g, w⟩, heffect, hif⟩ := Option.bind_eq_some_iff.mp he
  have hw : w = v := (Option.ite_none_right_eq_some.mp hif).2 |> Option.some.inj
  rw [hw] at heffect
  exact Edit.isChange_of_effect? heffect

namespace Draft

/-! ### One edit -/

/-- The draft after an effect. -/
def after (d : Draft) : Option (String × Json) → Draft
  | some (f, v) => d.put f v
  | none => d

@[simp] theorem kind_after (d : Draft) (effect : Option (String × Json)) :
    (d.after effect).kind = d.kind := by
  cases effect <;> rfl

theorem get?_after (d : Draft) (effect : Option (String × Json)) (f : String) :
    (d.after effect).fields.get? f =
      match effect with
      | some (g, v) => if f = g then some v else d.fields.get? f
      | none => d.fields.get? f := by
  cases effect with
  | none => rfl
  | some p => exact Members.get?_insert p.1 f p.2 d.fields

theorem ordered_after {d : Draft} (h : d.fields.Ordered) (effect : Option (String × Json)) :
    (d.after effect).fields.Ordered := by
  cases effect with
  | none => exact h
  | some p => exact h.insert p.1 p.2

/-- **What one edit does**: it fails, or it has its effect; which of the two depends
on the draft's kind only. -/
theorem apply_eq (d : Draft) (e : Edit) :
    d.apply e =
      match e.rejection? d.kind with
      | some error => .error error
      | none => .ok (d.after (e.effect? d.kind)) := by
  obtain ⟨kind, fields⟩ := d
  cases kind with
  | new => cases e <;> rfl
  | update =>
    cases e with
    | set f v =>
      cases v <;> simp [apply, set, Json.isNull, Edit.rejection?, Edit.effect?, after,
        Modifier.change_eq]
    | add f v => simp [apply, modify, Edit.rejection?, Edit.effect?, after, Modifier.change_eq]
    | modify f m v =>
      simp [apply, modify, Edit.rejection?, Edit.effect?, after, Modifier.change_eq]

/-- An edit that fails has no effect. -/
theorem effect?_of_rejection? {kind : DraftKind} {e : Edit} {error : DocumentError}
    (h : e.rejection? kind = some error) : e.effect? kind = none := by
  cases kind with
  | new =>
    cases e with
    | set f v => cases h
    | add f v => rfl
    | modify f m v => rfl
  | update => cases e <;> cases h

/-- An attempt at an edit leaves its effect, if there is one. -/
theorem attempt_eq (d : Draft) (e : Edit) : d.attempt e = d.after (e.effect? d.kind) := by
  unfold attempt
  rw [apply_eq]
  cases h : e.rejection? d.kind with
  | none => rfl
  | some error =>
    rw [effect?_of_rejection? h]
    rfl

/-! ### Runs -/

theorem run_concat (d : Draft) (edits : List Edit) (e : Edit) :
    d.run (edits ++ [e]) = (d.run edits).attempt e := by
  unfold run
  rw [List.foldl_append]
  rfl

@[simp] theorem kind_run (d : Draft) (edits : List Edit) : (d.run edits).kind = d.kind := by
  -- the last edit decides, so edits are taken off at the end, here and below
  induction edits using List.reverseRecOn with
  | nil => rfl
  | append_singleton edits e ih => rw [run_concat, attempt_eq, kind_after, ih]

/-- A run keeps the fields in order. -/
theorem ordered_run {d : Draft} (h : d.fields.Ordered) (edits : List Edit) :
    (d.run edits).fields.Ordered := by
  induction edits using List.reverseRecOn with
  | nil => exact h
  | append_singleton edits e ih =>
    rw [run_concat, attempt_eq]
    exact ordered_after ih _

/-- A field holds what its last effective edit has put there, or else what it held
at the start. -/
theorem get?_run (d : Draft) (edits : List Edit) (f : String) :
    (d.run edits).fields.get? f = (lastEffect? d.kind edits f).or (d.fields.get? f) := by
  induction edits using List.reverseRecOn with
  | nil => rfl
  | append_singleton edits e ih =>
    rw [run_concat, attempt_eq, get?_after, lastEffect?_concat, kind_run, ih]
    unfold Edit.effectOn?
    cases e.effect? d.kind with
    | none => rfl
    | some p =>
      by_cases hf : f = p.1
      · -- the edit replaces what the field held before
        simp only [Option.bind_some, if_pos hf]
        rfl
      · -- the edit replaces another field
        simp only [Option.bind_some, if_neg hf]
        rfl

/-! ### Documents -/

section Documents

variable (kind : DraftKind) (idField : String) (id : Json) (edits : List Edit)

/-- The next edit after a run fails or is part of a longer run. -/
theorem apply_run (e : Edit) :
    ((start kind idField id).run edits).apply e =
      match e.rejection? kind with
      | some error => .error error
      | none => .ok ((start kind idField id).run (edits ++ [e])) := by
  have hkind : ((start kind idField id).run edits).kind = kind := kind_run _ edits
  rw [apply_eq, run_concat, attempt_eq, hkind]

/-- A field of the document holds what its last effective edit has put there; at
the start there is the identifier only. -/
theorem getRaw_run (f : String) :
    ((start kind idField id).run edits).finish.getRaw f =
      (lastEffect? kind edits f).or (if f = idField then some id else none) := by
  have hstart : (start kind idField id).fields.get? f = if f = idField then some id else none :=
    Members.get?_insert idField f id []
  rw [← hstart]
  exact get?_run (start kind idField id) edits f

theorem ordered_finish_run : ((start kind idField id).run edits).finish.fields.Ordered := by
  have hstart : (start kind idField id).fields.Ordered := List.pairwise_singleton _ _
  exact ordered_run hstart edits

/-- An edited field of an update holds a change. -/
theorem exists_isChange_of_lastEffect? {f : String} (h : (lastEffect? .update edits f).isSome) :
    ∃ v, ((start .update idField id).run edits).finish.getRaw f = some v ∧ IsChange v := by
  obtain ⟨v, hv⟩ := Option.isSome_iff_exists.mp h
  refine ⟨v, ?_, isChange_of_lastEffect? hv⟩
  rw [getRaw_run, hv]
  rfl

/-- **The document that a run of edits makes.**  After any edits, the next one fails
only on a new document, where changes do.  A field holds what its last effective
edit has put there; without one, the identifier's field holds the identifier and
any other field nothing.  The fields are in order, each of them once, and an
update holds a change wherever an edit had an effect. -/
theorem finish_run :
    (∀ e, ((start kind idField id).run edits).apply e =
      match e.rejection? kind with
      | some error => .error error
      | none => .ok ((start kind idField id).run (edits ++ [e]))) ∧
    (∀ f, ((start kind idField id).run edits).finish.getRaw f =
      (lastEffect? kind edits f).or (if f = idField then some id else none)) ∧
    ((start kind idField id).run edits).finish.fields.Ordered ∧
    (kind = .update → ∀ f, (lastEffect? kind edits f).isSome →
      ∃ v, ((start kind idField id).run edits).finish.getRaw f = some v ∧ IsChange v) := by
  refine ⟨?_, ?_, ?_, ?_⟩
  · exact apply_run kind idField id edits
  · exact getRaw_run kind idField id edits
  · exact ordered_finish_run kind idField id edits
  · rintro rfl f hsome
    exact exists_isChange_of_lastEffect? idField id edits hsome

end Documents

/-- Tags are changed, cleared by an empty list and not brought back by `null`, and
the identifier's field is given a change. -/
def clearingTags : List Edit :=
  [.set "tags" (.array [.string "new"]), .modify "tags" .remove (.string "old"),
    .set "tags" (.array []), .set "tags" .null, .add "id" (.int 1)]

theorem finish_run_clearingTags :
    ((start .update "id" (.int 7)).run clearingTags).finish.getRaw "tags"
        = some (.object [("set", .null)]) ∧
      ((start .update "id" (.int 7)).run clearingTags).finish.getRaw "id"
        = some (.object [("add", .int 1)]) ∧
      ((start .update "id" (.int 7)).run clearingTags).finish.getRaw "name" = none ∧
      (lastEffect? .update clearingTags "tags").isSome ∧
      ∃ v, ((start .update "id" (.int 7)).run clearingTags).finish.getRaw "tags" = some v ∧
        IsChange v := by
  obtain ⟨-, hget, -, hchange⟩ := finish_run .update "id" (.int 7) clearingTags
  exact ⟨hget "tags", hget "id", hget "name", rfl, hchange rfl "tags" rfl⟩

end Draft

end SearchClient
