import Mathlib.Data.List.Sort
import SearchClient.Proofs.Value.Alternatives

/-!
# Lists of values without repetitions

Leaving out the repetitions of a list leaves each of its members once, in the order in which
they occur first; there is no other list of which this is true.  So what the text of a list
without its repetitions is does not depend on how the repetitions are found, and it can be
seen what changes it: members that are there already do not, and whether it is grouped
depends on whether the list has two different members, not on how many it has.

## Main definitions

* `Alternatives.FirstSeen` — each member of a list once, in the order of first occurrence.

## Main results

* `Alternatives.mem_unseen`, `Alternatives.pairwise_unseen` — what leaving out keeps, from
  any members that were seen before.
* `Alternatives.firstSeen_distinct`, `Alternatives.FirstSeen.unique` — the list without its
  repetitions is the only one of its kind.
* `Alternatives.renderDistinct_eq` — **the text of a list without its repetitions.**
-/

namespace SearchClient.Alternatives

/-! ### First occurrences -/

/-- `us` has each member of `vs` once, in the order in which they occur first. -/
structure FirstSeen (vs us : List String) : Prop where
  /-- The members are the same. -/
  mem_iff : ∀ v, v ∈ us ↔ v ∈ vs
  /-- A member comes before those that occur first behind it. -/
  inOrder : us.Pairwise fun v w => vs.idxOf v < vs.idxOf w

namespace FirstSeen

variable {vs us : List String}

theorem nodup (h : FirstSeen vs us) : us.Nodup :=
  h.inOrder.imp fun hlt heq => by
    rw [heq] at hlt
    exact Nat.lt_irrefl _ hlt

/-- **The order of first occurrence leaves no choice.** -/
theorem unique {us' : List String} (h : FirstSeen vs us) (h' : FirstSeen vs us') : us = us' := by
  have : Std.Irrefl fun v w : String => vs.idxOf v < vs.idxOf w := ⟨fun _ => Nat.lt_irrefl _⟩
  have : Std.Antisymm fun v w : String => vs.idxOf v < vs.idxOf w :=
    ⟨fun _ _ hlt hgt => absurd hgt (Nat.lt_asymm hlt)⟩
  exact h.inOrder.eq_of_mem_iff h'.inOrder fun v => (h.mem_iff v).trans (h'.mem_iff v).symm

/-- Without repetitions every member is seen where it stands. -/
theorem of_nodup (h : vs.Nodup) : FirstSeen vs vs where
  mem_iff _ := Iff.rfl
  inOrder := by
    rw [List.pairwise_iff_getElem]
    intro i j hi hj hij
    rwa [h.idxOf_getElem i hi, h.idxOf_getElem j hj]

/-- Members that are there already are seen before they are repeated. -/
theorem append (h : FirstSeen vs us) {ws : List String} (hws : ∀ w ∈ ws, w ∈ vs) :
    FirstSeen (vs ++ ws) us where
  mem_iff v := by
    rw [h.mem_iff, List.mem_append]
    exact ⟨.inl, fun hv => hv.elim id (hws v)⟩
  inOrder := by
    refine h.inOrder.imp_of_mem fun {v w} hv hw hlt => ?_
    rwa [List.idxOf_append_of_mem ((h.mem_iff v).1 hv),
      List.idxOf_append_of_mem ((h.mem_iff w).1 hw)]

theorem eq_nil_iff (h : FirstSeen vs us) : us = [] ↔ vs = [] := by
  rw [List.eq_nil_iff_forall_not_mem, List.eq_nil_iff_forall_not_mem]
  exact forall_congr' fun v => not_congr (h.mem_iff v)

/-- One member is left exactly if all members are the same. -/
theorem eq_singleton_iff (h : FirstSeen vs us) {v : String} (hv : v ∈ vs) :
    us = [v] ↔ ∀ w ∈ vs, w = v := by
  constructor
  · rintro rfl w hw
    exact List.mem_singleton.1 ((h.mem_iff w).2 hw)
  · intro hall
    have hmem : ∀ w, w ∈ [v] ↔ w ∈ vs := fun w => by
      rw [List.mem_singleton]
      exact ⟨fun hw => hw ▸ hv, hall w⟩
    exact h.unique ⟨hmem, List.pairwise_singleton _ _⟩

end FirstSeen

/-! ### Leaving out what was seen -/

/-- The members that are left are those that were not seen before. -/
theorem mem_unseen {seen vs : List String} {v : String} :
    v ∈ unseen seen vs ↔ v ∈ vs ∧ v ∉ seen := by
  induction vs generalizing seen with
  | nil => simp [unseen]
  | cons w vs ih =>
    rw [unseen]
    split
    · next hw =>
      rw [ih, List.mem_cons]
      constructor
      · exact fun ⟨hv, hseen⟩ => ⟨.inr hv, hseen⟩
      · rintro ⟨rfl | hv, hseen⟩
        · exact absurd hw hseen
        · exact ⟨hv, hseen⟩
    · next hw =>
      rw [List.mem_cons, ih, List.mem_cons, List.mem_cons]
      by_cases hv : v = w
      · simp [hv, hw]
      · simp [hv]

theorem ne_of_mem_unseen {seen vs : List String} {u v : String} (hu : u ∈ seen)
    (hv : v ∈ unseen seen vs) : u ≠ v := by
  rintro rfl
  exact (mem_unseen.1 hv).2 hu

/-- The members that are left are in the order in which they occur first. -/
theorem pairwise_unseen (seen vs : List String) :
    (unseen seen vs).Pairwise fun v w => vs.idxOf v < vs.idxOf w := by
  induction vs generalizing seen with
  | nil => exact .nil
  | cons u vs ih =>
    -- all that is left of `vs` occurs one place later behind `u`
    have hshift : ∀ t, u ∈ t →
        (unseen t vs).Pairwise fun v w => (u :: vs).idxOf v < (u :: vs).idxOf w := by
      intro t hu
      refine (ih t).imp_of_mem fun {v w} hv hw hlt => ?_
      rw [List.idxOf_cons_ne vs (ne_of_mem_unseen hu hv),
        List.idxOf_cons_ne vs (ne_of_mem_unseen hu hw)]
      exact Nat.succ_lt_succ hlt
    rw [unseen]
    split
    · next hu => exact hshift seen hu
    · refine List.pairwise_cons.2 ⟨fun w hw => ?_, hshift (u :: seen) List.mem_cons_self⟩
      rw [List.idxOf_cons_self, List.idxOf_cons_ne vs (ne_of_mem_unseen List.mem_cons_self hw)]
      exact Nat.succ_pos _

/-- **The list without its repetitions** has each member once, as it is first seen. -/
theorem firstSeen_distinct (vs : List String) : FirstSeen vs (distinct vs) where
  mem_iff v := by
    rw [distinct, mem_unseen]
    exact and_iff_left List.not_mem_nil
  inOrder := pairwise_unseen [] vs

/-! ### Texts -/

theorem FirstSeen.renderDistinct_eq_render {vs us : List String} (h : FirstSeen vs us) :
    renderDistinct vs = render us := by
  rw [renderDistinct, (firstSeen_distinct vs).unique h]

theorem length_le_length_intercalate (between : String) {v : String} {vs : List String}
    (h : v ∈ vs) : v.length ≤ (between.intercalate vs).length := by
  induction vs with
  | nil => cases h
  | cons w vs ih =>
    cases vs with
    | nil => rw [List.mem_singleton.1 h, String.intercalate_singleton]
    | cons u vs =>
      rw [String.intercalate_cons_cons, String.length_append, String.length_append]
      rcases List.mem_cons.1 h with rfl | h
      · omega
      · have hle := ih h
        omega

/-- A member is not the group that it is in. -/
theorem ne_grouped_of_mem {v : String} {vs : List String} (h : v ∈ vs) : v ≠ grouped vs := by
  intro heq
  have hle := length_le_length_intercalate " OR " h
  have hlength := congrArg String.length heq
  rw [grouped, String.length_append, String.length_append] at hlength
  have hparenthesis : "(".length = 1 := rfl
  omega

section Distinct

variable {vs us : List String} (h : FirstSeen vs us)
include h

/-- Only the empty list has no text. -/
theorem FirstSeen.renderDistinct_eq_error_iff :
    renderDistinct vs = .error .noValues ↔ vs = [] := by
  rw [h.renderDistinct_eq_render, render_eq_error_iff, h.eq_nil_iff]

theorem FirstSeen.exists_renderDistinct_iff :
    (∃ text, renderDistinct vs = .ok text) ↔ vs ≠ [] := by
  rw [h.renderDistinct_eq_render, exists_render_iff, Ne, h.eq_nil_iff]

/-- **The text is bare exactly if all members are the same.** -/
theorem FirstSeen.renderDistinct_eq_ok_iff {v : String} (hv : v ∈ vs) :
    renderDistinct vs = .ok v ↔ ∀ w ∈ vs, w = v := by
  rw [h.renderDistinct_eq_render, ← h.eq_singleton_iff hv]
  have hus := (h.mem_iff v).2 hv
  match us, hus with
  | [u], hus => rw [render_singleton, Except.ok.injEq, List.cons.injEq, and_iff_left rfl]
  | u :: w :: us, hus =>
    rw [render_eq_grouped, Except.ok.injEq]
    exact iff_of_false (ne_grouped_of_mem hus).symm (by simp)

/-- **The text is grouped if two members differ.** -/
theorem FirstSeen.renderDistinct_eq_grouped {v w : String} (hv : v ∈ vs) (hw : w ∈ vs)
    (hne : v ≠ w) : renderDistinct vs = .ok (grouped us) := by
  rw [h.renderDistinct_eq_render]
  have hv' := (h.mem_iff v).2 hv
  have hw' := (h.mem_iff w).2 hw
  match us, hv', hw' with
  | [u], hv', hw' =>
    exact absurd ((List.mem_singleton.1 hv').trans (List.mem_singleton.1 hw').symm) hne
  | u :: x :: us, _, _ => exact render_eq_grouped u x us

end Distinct

/-- **The text of a list without its repetitions** is the text of the one list that has each
member once, in the order in which they occur first.  Only the empty list has no text.  Of a
list without repetitions it is the text as it would be otherwise; repeating members at the
end changes nothing; and it is a single member exactly if all members are the same, the
group of the different members otherwise. -/
theorem renderDistinct_eq (vs : List String) :
    (∃ us, FirstSeen vs us ∧ us.Nodup) ∧
    (∀ us, FirstSeen vs us → renderDistinct vs = render us) ∧
    (renderDistinct vs = .error .noValues ↔ vs = []) ∧
    ((∃ text, renderDistinct vs = .ok text) ↔ vs ≠ []) ∧
    (vs.Nodup → renderDistinct vs = render vs) ∧
    (∀ ws, (∀ w ∈ ws, w ∈ vs) → renderDistinct (vs ++ ws) = renderDistinct vs) ∧
    (∀ v ∈ vs, renderDistinct vs = .ok v ↔ ∀ w ∈ vs, w = v) ∧
    ∀ us, FirstSeen vs us → ∀ v ∈ vs, ∀ w ∈ vs, v ≠ w →
      renderDistinct vs = .ok ("(" ++ " OR ".intercalate us ++ ")") := by
  have h := firstSeen_distinct vs
  refine ⟨⟨distinct vs, h, h.nodup⟩, fun us hus => hus.renderDistinct_eq_render,
    h.renderDistinct_eq_error_iff, h.exists_renderDistinct_iff,
    fun hnodup => (FirstSeen.of_nodup hnodup).renderDistinct_eq_render, fun ws hws => ?_,
    fun v hv => h.renderDistinct_eq_ok_iff hv,
    fun us hus v hv w hw hne => hus.renderDistinct_eq_grouped hv hw hne⟩
  rw [(h.append hws).renderDistinct_eq_render, h.renderDistinct_eq_render]

example : renderDistinct ["b", "a", "b", "c", "a"] = .ok "(b OR a OR c)" := by
  decide +kernel

end SearchClient.Alternatives
