import SearchClient.Proofs.Document.Edits
import SearchClient.Proofs.Json.RoundTrip

/-!
# Texts of documents

The text of a document is that of one object, the object of its fields.  All values that
edits bring in being exact, the document is an exact value too, and so it can be read back
from its text.  Documents with the same text are the same.

## Main definitions

* `Edit.value` — the value that an edit brings in.
* `Document.Drafted` — documents that edits with exact values make.

## Main results

* `Draft.exact_attempt`, `Draft.exact_run` — exact values make exact fields.
* `Document.Drafted.render_faithful` — **the text of a document.**
-/

namespace SearchClient

/-- A value without its emptiness is as exact as before. -/
theorem Json.Exact.orCleared {v : Json} (h : v.Exact) : v.orCleared.Exact := by
  unfold Json.orCleared
  split
  · exact exact_null
  · exact h

/-- The value that an edit brings in. -/
def Edit.value : Edit → Json
  | .set _ v => v
  | .add _ v => v
  | .modify _ _ v => v

/-- The effect of an edit is exact if the value that it brings in is. -/
theorem Edit.exact_of_effect? {e : Edit} (h : e.value.Exact) {kind : DraftKind} {f : String}
    {v : Json} (heffect : e.effect? kind = some (f, v)) : v.Exact := by
  cases kind with
  | new =>
    cases e with
    | set g w =>
      cases heffect
      exact h
    | add g w => cases heffect
    | modify g m w => cases heffect
  | update =>
    cases e with
    | set g w =>
      cases w with
      | null => cases heffect
      | _ =>
        cases heffect
        exact Json.exact_singleton _ h.orCleared
    | add g w =>
      cases heffect
      exact Json.exact_singleton _ h.orCleared
    | modify g m w =>
      cases heffect
      exact Json.exact_singleton _ h.orCleared

namespace Draft

/-- **An edit with an exact value keeps the fields exact.** -/
theorem exact_attempt {d : Draft} (hd : Json.Exact (.object d.fields)) {e : Edit}
    (he : e.value.Exact) : Json.Exact (.object (d.attempt e).fields) := by
  rw [attempt_eq]
  cases heffect : e.effect? d.kind with
  | none => exact hd
  | some p => exact hd.insert p.1 (Edit.exact_of_effect? he heffect)

/-- **A run of edits with exact values keeps the fields exact.** -/
theorem exact_run {d : Draft} (hd : Json.Exact (.object d.fields)) {edits : List Edit}
    (hedits : ∀ e ∈ edits, e.value.Exact) : Json.Exact (.object (d.run edits).fields) := by
  induction edits generalizing d with
  | nil => exact hd
  | cons e edits ih =>
    rw [List.forall_mem_cons] at hedits
    exact ih (exact_attempt hd hedits.1) hedits.2

end Draft

namespace Document

/-- The documents that edits make, all values exact that are brought in. -/
inductive Drafted : Document → Prop
  /-- The document that a run of edits makes. -/
  | of_run (kind : DraftKind) (idField : String) {id : Json} (hid : id.Exact) {edits : List Edit}
      (hedits : ∀ e ∈ edits, e.value.Exact) :
      Drafted ((Draft.start kind idField id).run edits).finish

theorem Drafted.exact_toJson {d : Document} (h : Drafted d) : d.toJson.Exact := by
  obtain ⟨kind, idField, hid, hedits⟩ := h
  have hstart : Json.Exact (.object (Draft.start kind idField _).fields) :=
    Json.exact_singleton idField hid
  exact Draft.exact_run hstart hedits

/-- **The text of a document.**  It is read back as the object of the document's fields,
whether the members of objects are kept as they are listed or put in order; for they are
listed in order to every depth.  No control character is in it, and documents with the
same text are the same. -/
theorem Drafted.render_faithful {d d' : Document} (h : Drafted d) (h' : Drafted d') :
    Json.listing? d.toJson.render = some d.toJson ∧
    Json.ofText? d.toJson.render = some (.object d.fields) ∧
    d.toJson.Sorted ∧
    (∀ c ∈ d.toJson.render.toList, 32 ≤ c.toNat) ∧
    (d.toJson.render = d'.toJson.render ↔ d = d') := by
  have hexact := h.exact_toJson
  refine ⟨Json.listing?_render hexact.whole, Json.ofText?_render hexact, hexact.sorted, ?_, ?_⟩
  · rw [Json.render, String.toList_ofList]
    exact Json.le_toNat_of_mem_chars d.toJson hexact.whole
  · constructor
    · intro htext
      -- both documents are read back from the one text
      have hread := Json.ofText?_render hexact
      rw [htext, Json.ofText?_render h'.exact_toJson] at hread
      obtain ⟨fields⟩ := d
      obtain ⟨fields'⟩ := d'
      cases hread
      rfl
    · rintro rfl
      rfl

/-- A new document with the highest number there is, and with a note of a quotation mark,
a control character and a letter outside ASCII. -/
def quotedNote : Document :=
  ((Draft.start .new "id" (.int 18446744073709551615)).run
    [.set "note" (.string "\"\x01é"), .set "tags" (.array [.object [("a", .null)]])]).finish

/-- An update that takes the note away. -/
def withoutNote : Document :=
  ((Draft.start .update "id" (.int (-1))).run [.modify "note" .set (.array [])]).finish

theorem Drafted.render_quotedNote :
    Drafted quotedNote ∧ Drafted withoutNote ∧
    Json.listing? quotedNote.toJson.render = some quotedNote.toJson ∧
    quotedNote.toJson.render ≠ withoutNote.toJson.render := by
  have hquoted : Drafted quotedNote := by
    refine .of_run .new "id" (Json.exact_int (by decide)) fun e he => ?_
    simp only [List.mem_cons, List.not_mem_nil, or_false] at he
    rcases he with rfl | rfl
    · exact Json.exact_string _
    · exact Json.exact_array.2 fun v hv => by
        rw [List.mem_singleton.1 hv]
        exact Json.exact_singleton "a" Json.exact_null
  have hwithout : Drafted withoutNote := by
    refine .of_run .update "id" (Json.exact_int (by decide)) fun e he => ?_
    rw [List.mem_singleton.1 he]
    exact Json.exact_array.2 (by simp)
  obtain ⟨hread, -, -, -, htext⟩ := hquoted.render_faithful hwithout
  refine ⟨hquoted, hwithout, hread, fun h => ?_⟩
  have hid := congrArg (fun d => d.getRaw "id") (htext.1 h)
  cases hid

end Document

end SearchClient
