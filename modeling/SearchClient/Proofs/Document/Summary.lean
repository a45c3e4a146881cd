import Mathlib.Data.List.Sort
import SearchClient.Proofs.Document.Changes
import SearchClient.Proofs.Json.RoundTrip

/-!
# Strings in summaries

A summary is meant for a log, and it shows no more of a string than its beginning, if the
string is what a field holds.  So it is in new documents, and with the identifier.  The
string of a change is not what its field holds, though: the field holds an object with the
string in it, and objects are shown whole.  So what is cut short in a new document can be
read in the summary of an update, as long as no later edit replaces it.

## Main definitions

* `Edit.field`, `Edit.modifier`, `Edit.withValue` — the parts of an edit, and an edit with
  another value.

## Main results

* `Members.ext_get?` — fields in order are known by what they hold.
* `Document.summary_eq_iff` — summaries of documents that differ in one field.
* `Draft.summary_run_eq_iff` — the same for runs that differ in the effect of one edit.
* `Draft.summary_run_cut` — **the strings that a summary cuts short**, and
  `Draft.summary_update_wholeNote`, one that it does not.
-/

namespace SearchClient

/-! ### Members in order -/

namespace Members

theorem get?_of_mem {ms : Members} (h : ms.Ordered) {key : String} {v : Json}
    (hmem : (key, v) ∈ ms) : ms.get? key = some v := by
  induction ms with
  | nil => cases hmem
  | cons m ms ih =>
    obtain ⟨k, w⟩ := m
    rw [get?_cons]
    rw [Ordered, keys, List.map_cons, List.pairwise_cons] at h
    rcases List.mem_cons.1 hmem with heq | hmem
    · obtain ⟨rfl, rfl⟩ := Prod.mk.inj heq
      exact if_pos rfl
    · have hlt : k < key := h.1 key (List.mem_map_of_mem hmem)
      rw [if_neg (String.ne_of_lt hlt)]
      exact ih h.2 hmem

theorem mem_iff_get? {ms : Members} (h : ms.Ordered) {m : String × Json} :
    m ∈ ms ↔ ms.get? m.1 = some m.2 :=
  ⟨get?_of_mem h, mem_of_get?⟩

/-- **Members in order are known by what is under their keys.** -/
theorem ext_get? {ms ns : Members} (h : ms.Ordered) (h' : ns.Ordered)
    (hget : ∀ key, ms.get? key = ns.get? key) : ms = ns := by
  have : Std.Irrefl fun m n : String × Json => m.1 < n.1 := ⟨fun m => String.lt_irrefl m.1⟩
  have : Std.Antisymm fun m n : String × Json => m.1 < n.1 :=
    ⟨fun _ _ hlt hgt => absurd hgt (String.lt_asymm hlt)⟩
  refine (List.pairwise_map.1 h).eq_of_mem_iff (List.pairwise_map.1 h') fun m => ?_
  rw [mem_iff_get? h, mem_iff_get? h', hget]

/-- A value put under a key that is there takes the place of the value that was. -/
theorem exists_insert_eq {ms : Members} (h : ms.Ordered) {key : String} {v : Json}
    (hget : ms.get? key = some v) (w : Json) :
    ∃ before after, ms = before ++ (key, v) :: after ∧
      insert key w ms = before ++ (key, w) :: after := by
  induction ms with
  | nil => cases hget
  | cons m ms ih =>
    obtain ⟨k, u⟩ := m
    have hmem := mem_of_get? hget
    rw [get?_cons] at hget
    rw [Ordered, keys, List.map_cons, List.pairwise_cons] at h
    by_cases hk : k = key
    · rw [if_pos hk, Option.some.injEq] at hget
      subst hk hget
      refine ⟨[], ms, rfl, ?_⟩
      rw [insert, if_neg (String.lt_irrefl k), if_pos rfl]
      rfl
    · rw [if_neg hk] at hget
      have hlt : k < key := h.1 key (List.mem_map_of_mem (mem_of_get? hget))
      obtain ⟨before, after, hms, hinsert⟩ := ih h.2 hget
      refine ⟨(k, u) :: before, after, by rw [hms, List.cons_append], ?_⟩
      rw [insert, if_neg (String.lt_asymm hlt), if_neg hk, hinsert, List.cons_append]

end Members

/-! ### Summaries -/

namespace Document

/-- Documents in order are known by what their fields hold. -/
theorem ext_getRaw {d d' : Document} (h : d.fields.Ordered) (h' : d'.fields.Ordered)
    (hraw : ∀ f, d.getRaw f = d'.getRaw f) : d = d' := by
  obtain ⟨fields⟩ := d
  obtain ⟨fields'⟩ := d'
  exact congrArg mk (Members.ext_get? h h' hraw)

theorem summary_append_eq_iff (before after : Members) (f : String) (v w : Json) :
    (mk (before ++ (f, v) :: after)).summary = (mk (before ++ (f, w) :: after)).summary ↔
      summarize v = summarize w := by
  unfold summary
  simp only [List.flatMap_append, List.flatMap_cons, String.ofList_inj, List.append_assoc,
    List.append_cancel_left_eq, List.append_cancel_right_eq, List.cons_append, List.cons.injEq,
    true_and]

/-- **Summaries of documents that differ in one field** are the same exactly if the values
in this field are shown alike. -/
theorem summary_eq_iff {d d' : Document} (h : d.fields.Ordered) (h' : d'.fields.Ordered)
    {f : String} {v w : Json} (hv : d.getRaw f = some v) (hw : d'.getRaw f = some w)
    (hother : ∀ g, g ≠ f → d.getRaw g = d'.getRaw g) :
    d.summary = d'.summary ↔ summarize v = summarize w := by
  obtain ⟨before, after, hd, hinsert⟩ := Members.exists_insert_eq h hv w
  have hd' : d'.fields = Members.insert f w d.fields := by
    refine Members.ext_get? h' (h.insert f w) fun g => ?_
    rw [Members.get?_insert]
    by_cases hg : g = f
    · rw [if_pos hg, hg]
      exact hw
    · rw [if_neg hg]
      exact (hother g hg).symm
  obtain ⟨fields⟩ := d
  obtain ⟨fields'⟩ := d'
  rw [show fields = _ from hd, show fields' = _ from hd'.trans hinsert]
  exact summary_append_eq_iff before after f v w

/-- The same if there may be one value that both fields hold in place of their own. -/
theorem summary_eq_iff_of_or {d d' : Document} (h : d.fields.Ordered) (h' : d'.fields.Ordered)
    (f : String) {u : Option Json} {v w : Json} (hv : d.getRaw f = u.or (some v))
    (hw : d'.getRaw f = u.or (some w)) (hother : ∀ g, g ≠ f → d.getRaw g = d'.getRaw g) :
    d.summary = d'.summary ↔ u.isSome ∨ summarize v = summarize w := by
  cases u with
  | some u =>
    have hsame : d = d' := by
      refine ext_getRaw h h' fun g => ?_
      by_cases hg : g = f
      · rw [hg, hv, hw]
        rfl
      · exact hother g hg
    exact iff_of_true (congrArg summary hsame) (.inl rfl)
  | none =>
    rw [summary_eq_iff h h' hv hw hother]
    exact (or_iff_right nofun).symm

end Document

/-! ### Effects of edits -/

namespace Edit

/-- The field that an edit names. -/
def field : Edit → String
  | .set f _ => f
  | .add f _ => f
  | .modify f _ _ => f

/-- The modifier of the change that an edit makes to an update. -/
def modifier : Edit → Modifier
  | .set _ _ => .set
  | .add _ _ => .add
  | .modify _ m _ => m

/-- The edit with another value. -/
def withValue : Edit → Json → Edit
  | .set f _, v => .set f v
  | .add f _, v => .add f v
  | .modify f m _, v => .modify f m v

theorem effect?_withValue_update (e : Edit) (s : String) :
    (e.withValue (.string s)).effect? .update =
      some (e.field, .object [(e.modifier.name, .string s)]) := by
  cases e <;> rfl

/-- On a new document a string is given to a field as it is, or not at all. -/
theorem effect?_withValue_new (e : Edit) :
    (∀ s, (e.withValue (.string s)).effect? .new = some (e.field, .string s)) ∨
      ∀ s, (e.withValue (.string s)).effect? .new = none := by
  cases e with
  | set f v => exact .inl fun s => rfl
  | add f v => exact .inr fun s => rfl
  | modify f m v => exact .inr fun s => rfl

theorem effectOn?_of_effect? {kind : DraftKind} {e : Edit} {f : String} {v : Json}
    (h : e.effect? kind = some (f, v)) (g : String) :
    e.effectOn? kind g = if g = f then some v else none := by
  rw [effectOn?, h]
  rfl

end Edit

/-- The last effect on a field is sought behind an edit, then in it, and then before it. -/
theorem lastEffect?_append_cons (kind : DraftKind) (before after : List Edit) (e : Edit)
    (f : String) :
    lastEffect? kind (before ++ e :: after) f =
      (lastEffect? kind after f).or ((e.effectOn? kind f).or (lastEffect? kind before f)) := by
  unfold lastEffect?
  rw [List.reverse_append, List.reverse_cons, List.findSome?_append, List.findSome?_append,
    List.findSome?_singleton, Option.or_assoc]

namespace Draft

/-- The document that a run of edits makes. -/
def document (kind : DraftKind) (idField : String) (id : Json) (edits : List Edit) : Document :=
  ((start kind idField id).run edits).finish

variable (kind : DraftKind) (idField : String) (id : Json)

theorem ordered_document (edits : List Edit) : (document kind idField id edits).fields.Ordered :=
  ordered_finish_run kind idField id edits

theorem getRaw_document (edits : List Edit) (f : String) :
    (document kind idField id edits).getRaw f =
      (lastEffect? kind edits f).or (if f = idField then some id else none) :=
  getRaw_run kind idField id edits f

/-- Runs with the same effects make the same document. -/
theorem document_congr {edits edits' : List Edit}
    (h : ∀ f, lastEffect? kind edits f = lastEffect? kind edits' f) :
    document kind idField id edits = document kind idField id edits' := by
  refine Document.ext_getRaw (ordered_document kind idField id edits)
    (ordered_document kind idField id edits') fun f => ?_
  rw [getRaw_document, getRaw_document, h]

/-- An edit with an effect on a field decides what the field holds, unless a later one
does. -/
theorem getRaw_document_of_effect? {before after : List Edit} {e : Edit} {f : String} {v : Json}
    (h : e.effect? kind = some (f, v)) :
    (document kind idField id (before ++ e :: after)).getRaw f =
      (lastEffect? kind after f).or (some v) := by
  rw [getRaw_document, lastEffect?_append_cons, Edit.effectOn?_of_effect? h, if_pos rfl,
    Option.some_or, Option.or_assoc, Option.some_or]

/-- **Runs that differ in the effect of one edit** have the same summary exactly if a later
edit replaces the value or the two values are shown alike. -/
theorem summary_run_eq_iff (before after : List Edit) {e e' : Edit} {f : String} {v w : Json}
    (h : e.effect? kind = some (f, v)) (h' : e'.effect? kind = some (f, w)) :
    (document kind idField id (before ++ e :: after)).summary =
        (document kind idField id (before ++ e' :: after)).summary ↔
      (lastEffect? kind after f).isSome ∨ Document.summarize v = Document.summarize w := by
  refine Document.summary_eq_iff_of_or (ordered_document _ _ _ _) (ordered_document _ _ _ _)
    f (getRaw_document_of_effect? kind idField id h) (getRaw_document_of_effect? kind idField id h')
    fun g hg => ?_
  -- neither edit has an effect on another field
  rw [getRaw_document, getRaw_document, lastEffect?_append_cons, lastEffect?_append_cons,
    Edit.effectOn?_of_effect? h, Edit.effectOn?_of_effect? h', if_neg hg, if_neg hg]

/-- **Runs that differ in the identifier** have the same summary exactly if an edit replaces
it or the two identifiers are shown alike. -/
theorem summary_id_eq_iff (id' : Json) (edits : List Edit) :
    (document kind idField id edits).summary = (document kind idField id' edits).summary ↔
      (lastEffect? kind edits idField).isSome ∨
        Document.summarize id = Document.summarize id' := by
  refine Document.summary_eq_iff_of_or (ordered_document _ _ _ _) (ordered_document _ _ _ _)
    idField ?_ ?_ fun g hg => ?_
  · rw [getRaw_document, if_pos rfl]
  · rw [getRaw_document, if_pos rfl]
  · rw [getRaw_document, getRaw_document, if_neg hg, if_neg hg]

end Draft

/-! ### Strings -/

namespace Document

theorem summarize_string_eq_iff {s t : String} :
    summarize (.string s) = summarize (.string t) ↔ s.toList.take 30 = t.toList.take 30 :=
  Iff.rfl

/-- A change with a string shows the whole string. -/
theorem summarize_change_eq_iff (m : Modifier) {s t : String} :
    summarize (.object [(m.name, .string s)]) = summarize (.object [(m.name, .string t)]) ↔
      s = t := by
  constructor
  · intro h
    have hwhole : ∀ u, (Json.object [(m.name, .string u)]).Whole := fun u =>
      (Json.exact_singleton m.name (Json.exact_string u)).whole
    have htext : (Json.object [(m.name, .string s)]).render =
        (Json.object [(m.name, .string t)]).render := congrArg String.ofList h
    -- both objects are read back from the one text
    have hread := Json.listing?_render (hwhole s)
    rw [htext, Json.listing?_render (hwhole t)] at hread
    cases hread
    rfl
  · rintro rfl
    rfl

end Document

namespace Draft

/-- **The strings that a summary cuts short.**  Let an edit bring in one string in place of
another that begins with the same 30 characters.  The summary stays the same on every new
document; on an update it stays the same only if a later edit replaces the value, or if the
strings do not differ at all.  The identifier is cut short in every document. -/
theorem summary_run_cut (kind : DraftKind) (idField : String) (id : Json)
    (before after : List Edit) (e : Edit) {s t : String}
    (hcut : s.toList.take 30 = t.toList.take 30) :
    ((document kind idField id (before ++ e.withValue (.string s) :: after)).summary =
        (document kind idField id (before ++ e.withValue (.string t) :: after)).summary ↔
      kind = .new ∨ (lastEffect? kind after e.field).isSome ∨ s = t) ∧
    ∀ edits, (document kind idField (.string s) edits).summary =
      (document kind idField (.string t) edits).summary := by
  constructor
  · cases kind with
    | new =>
      refine iff_of_true ?_ (.inl rfl)
      rcases e.effect?_withValue_new with hgiven | hrejected
      · exact (summary_run_eq_iff .new idField id before after (hgiven s) (hgiven t)).2
          (.inr (Document.summarize_string_eq_iff.2 hcut))
      · refine congrArg Document.summary (document_congr .new idField id fun f => ?_)
        rw [lastEffect?_append_cons, lastEffect?_append_cons, Edit.effectOn?, Edit.effectOn?,
          hrejected s, hrejected t]
    | update =>
      rw [summary_run_eq_iff .update idField id before after (e.effect?_withValue_update s)
        (e.effect?_withValue_update t), Document.summarize_change_eq_iff]
      exact (or_iff_right nofun).symm
  · intro edits
    exact (summary_id_eq_iff kind idField (.string s) (.string t) edits).2
      (.inr (Document.summarize_string_eq_iff.2 hcut))

/-- A note of 30 characters that leave room for what they hide. -/
def note : String := "The key to the search cluster:"

theorem summary_run_cut_note :
    (note ++ " a1").toList.take 30 = (note ++ " b2").toList.take 30 ∧
      (document .new "id" (.int 1) [.set "note" (.string (note ++ " a1"))]).summary =
        (document .new "id" (.int 1) [.set "note" (.string (note ++ " b2"))]).summary ∧
      (document .update "id" (.int 1)
          [.add "note" (.string (note ++ " a1")), .set "note" (.array [])]).summary =
        (document .update "id" (.int 1)
          [.add "note" (.string (note ++ " b2")), .set "note" (.array [])]).summary ∧
      (document .update "id" (.int 1) [.set "note" (.string (note ++ " a1"))]).summary ≠
        (document .update "id" (.int 1) [.set "note" (.string (note ++ " b2"))]).summary := by
  have hcut : (note ++ " a1").toList.take 30 = (note ++ " b2").toList.take 30 := by decide
  refine ⟨hcut, ?_, ?_, fun h => ?_⟩
  · exact (summary_run_cut .new "id" (.int 1) [] [] (.set "note" .null) hcut).1.2 (.inl rfl)
  · exact (summary_run_cut .update "id" (.int 1) [] [.set "note" (.array [])]
      (.add "note" .null) hcut).1.2 (.inr (.inl rfl))
  · rcases (summary_run_cut .update "id" (.int 1) [] [] (.set "note" .null) hcut).1.1 h with
      hkind | hlater | hsame
    · cases hkind
    · cases hlater
    · exact absurd hsame (by decide)

/-- **An update shows the whole string of a change**, so strings that begin alike are told
apart. -/
theorem summary_update_wholeNote :
    30 < (note ++ " a1").toList.length ∧ 30 < (note ++ " b2").toList.length ∧
      (note ++ " a1").toList.take 30 = (note ++ " b2").toList.take 30 ∧
      (document .update "id" (.int 1) [.set "note" (.string (note ++ " a1"))]).summary =
        "InputDoc\x7bid=1;note=\x7b\"set\":\"The key to the search cluster: a1\"\x7d;\x7d" ∧
      (document .update "id" (.int 1) [.set "note" (.string (note ++ " a1"))]).summary ≠
        (document .update "id" (.int 1) [.set "note" (.string (note ++ " b2"))]).summary := by
  refine ⟨by decide, by decide, by decide, by decide +kernel, by decide +kernel⟩

end Draft

end SearchClient
