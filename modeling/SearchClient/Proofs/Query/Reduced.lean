import Mathlib.Data.List.Forall2
import SearchClient.Proofs.Query.Joins

/-!
# Normal forms inside a query

The normal form of a query has no empty clauses and no join with a single clause.
A clause of a join can be put in its normal form without a change to the text, at
any depth and whatever stands around it: the text that it has there stays, and so
does the number of clauses present in every join above it, which is all that the
parentheses of those joins depend on.

Alone a query may lose its parentheses on the way, so the clause has to stand in a
join.

## Main definitions

* `Query.reduced` — the normal form of a query, as a query.
* `Query.Tidy` — joins of two clauses or more, none of them empty.
* `Query.subqueryAt?`, `Query.replaceAt` — the query at a position, and the query
  with another one put there.
* `Query.Interchangeable` — queries that do the same as clauses of a join.

## Main results

* `Query.tidy_of_mem_reduced` — a normal form is tidy at every depth.
* `Query.Built.interchangeable_reduced` — a sound query and its normal form do the
  same as clauses.
* `Query.Built.interchangeable_replaceAt` — so do the queries around them.
* `Query.render_replaceAt_reduced` — **a normal form in place of a clause leaves the
  text unchanged.**
-/

namespace SearchClient
namespace Query

/-! ### Normal forms -/

mutual

/-- The normal form of a query: empty clauses are left out, a join that is left with
one clause is replaced by it, and the other joins are made anew. -/
def reduced : Query → Query
  | .empty => .empty
  | .leaf l => .leaf l
  | .join o cs _ => joined o (reducedClauses cs)

/-- The normal forms of some clauses, without those that are empty. -/
def reducedClauses : List Query → List Query
  | [] => []
  | c :: cs => present [reduced c] ++ reducedClauses cs

end

theorem reducedClauses_eq (cs : List Query) : reducedClauses cs = present (cs.map reduced) := by
  induction cs with
  | nil => rfl
  | cons c cs ih =>
    rw [reducedClauses, ih, List.map_cons]
    exact (List.filter_append [c.reduced] _).symm

theorem reduced_join (o : Operator) (cs : List Query) (g : Bool) :
    reduced (.join o cs g) = joined o (present (cs.map reduced)) := by
  rw [reduced, reducedClauses_eq]

/-- A join of two clauses or more, none of which is empty; other queries are tidy. -/
def Tidy : Query → Prop
  | .join _ cs _ => 2 ≤ cs.length ∧ .empty ∉ cs
  | _ => True

/-- Joining clauses that are tidy inside and not empty gives a tidy query. -/
theorem tidy_of_mem_joined {o : Operator} {cs : List Query} (hne : .empty ∉ cs)
    (h : ∀ c ∈ cs, ∀ s ∈ c.subqueries, s.Tidy) : ∀ s ∈ (joined o cs).subqueries, s.Tidy := by
  match cs with
  | [] => simp [subqueries, Tidy]
  | [c] => exact h c List.mem_cons_self
  | c :: d :: ds =>
    intro s hs
    rw [joined_cons_cons, subqueries, clauseSubqueries_eq, List.mem_cons, List.mem_flatMap] at hs
    rcases hs with rfl | ⟨e, he, hs⟩
    · exact ⟨by simp, hne⟩
    · exact h e he s hs

/-- **A normal form is tidy at every depth.** -/
theorem tidy_of_mem_reduced (q : Query) : ∀ s ∈ q.reduced.subqueries, s.Tidy := by
  induction q using clause_induction with
  | empty => simp [reduced, subqueries, Tidy]
  | leaf l => simp [reduced, subqueries, Tidy]
  | join o cs g ih =>
    rw [reduced_join]
    refine tidy_of_mem_joined (by simp) fun c hc => ?_
    obtain ⟨d, hd, rfl⟩ := List.mem_map.1 (mem_present.1 hc).1
    exact ih d hd

/-! ### Clauses that do the same -/

/-- Queries that do the same as clauses of a join: none of them is present, or both
are and have one text. -/
structure Interchangeable (c d : Query) : Prop where
  /-- Both are empty or none is. -/
  isEmpty_eq : c.isEmpty = d.isEmpty
  /-- They have the same text as clauses. -/
  inner_eq : c.inner = d.inner

theorem Interchangeable.refl (q : Query) : Interchangeable q q := ⟨rfl, rfl⟩

/-- The texts of the clauses present, for clauses that do the same. -/
theorem map_inner_present {cs ds : List Query} (h : List.Forall₂ Interchangeable cs ds) :
    (present cs).map inner = (present ds).map inner := by
  induction h with
  | nil => rfl
  | cons hcd _ ih =>
    rw [present_cons, present_cons, hcd.isEmpty_eq]
    split
    · exact ih
    · rw [List.map_cons, List.map_cons, hcd.inner_eq, ih]

/-- Inside another join, the texts of the clauses present fix the text of a join. -/
theorem inner_joined_congr {o : Operator} {cs ds : List Query}
    (h : (present cs).map inner = (present ds).map inner) :
    inner (joined o cs) = inner (joined o ds) := by
  have hlen : (present cs).length = (present ds).length := by
    simpa using congrArg List.length h
  rw [inner_joined, inner_joined, h, hlen]

/-- **Joins of clauses that do the same do the same.** -/
theorem Interchangeable.joined {o : Operator} {cs ds : List Query}
    (h : List.Forall₂ Interchangeable cs ds) :
    Interchangeable (Query.joined o cs) (Query.joined o ds) where
  isEmpty_eq := by
    match cs, ds, h with
    | [], [], _ => rfl
    | [_], [_], .cons hcd .nil => exact hcd.isEmpty_eq
    | _ :: _ :: _, _ :: _ :: _, _ => rfl
  inner_eq := inner_joined_congr (map_inner_present h)

/-- A built join is what joining its clauses gives. -/
theorem Built.joined_clauses {o : Operator} {cs : List Query} {g : Bool}
    (h : (join o cs g).Built) : Query.joined o cs = .join o cs g := by
  obtain ⟨h2, hgrouped⟩ := h.shaped
  rw [joined_of_two_le o h2]
  congr 1
  rw [Bool.eq_iff_iff, decide_eq_true_iff, hgrouped]

theorem isEmpty_iff {q : Query} : q.isEmpty = true ↔ q = .empty := by
  cases q <;> simp

/-- A join in which a clause is present is not empty. -/
theorem isEmpty_joined {o : Operator} {cs : List Query} (h : present cs ≠ []) :
    (joined o cs).isEmpty = false := by
  rw [Bool.eq_false_iff, Ne, isEmpty_iff, joined_eq_empty_iff]
  rintro (rfl | rfl) <;> exact h rfl

/-- The normal forms present are those of the clauses present, if none gets lost. -/
theorem present_map_reduced {cs : List Query} (h : ∀ c ∈ present cs, c.reduced ≠ .empty) :
    present (cs.map reduced) = (present cs).map reduced := by
  induction cs with
  | nil => rfl
  | cons c cs ih =>
    rw [List.map_cons, present_cons, present_cons]
    rw [present_cons] at h
    by_cases hc : c.isEmpty = true
    · obtain rfl := isEmpty_iff.1 hc
      exact ih h
    · rw [if_neg hc, List.forall_mem_cons] at h
      rw [if_neg hc, if_neg (mt isEmpty_iff.1 h.1), ih h.2, List.map_cons]

/-- **A sound query and its normal form do the same as clauses.** -/
theorem Built.interchangeable_reduced {q : Query} (h : q.Built) (hs : q.Sound) :
    Interchangeable q q.reduced := by
  induction h using Built.shape_induction with
  | empty => exact absurd rfl hs.1
  | leaf l hl hlead => exact .refl _
  | join o cs hj h2 ih =>
    obtain ⟨hne, hsound⟩ := sound_join.1 hs
    have hclauses : ∀ c ∈ present cs, Interchangeable c c.reduced := by
      intro c hc
      obtain ⟨_, ihc⟩ := ih c (mem_present.1 hc).1
      exact ihc (hsound c hc)
    -- no clause present gets lost, so the clauses present are as many as before
    have hkept : ∀ c ∈ present cs, c.reduced ≠ .empty := by
      intro c hc
      rw [Ne, ← isEmpty_iff, ← (hclauses c hc).isEmpty_eq, isEmpty_iff]
      exact (mem_present.1 hc).2
    have hpresent := present_map_reduced hkept
    have hagain : present (present (cs.map reduced)) = (present cs).map reduced := by
      rw [← hpresent]
      simp [present]
    have hinner : (present cs).map inner
        = (present (present (cs.map reduced))).map inner := by
      rw [hagain, List.map_map]
      exact List.map_congr_left fun c hc => (hclauses c hc).inner_eq
    rw [reduced_join]
    refine ⟨?_, ?_⟩
    · rw [isEmpty_joined (by simpa [hagain] using hne), isEmpty_join]
    · rw [← hj.joined_clauses]
      exact inner_joined_congr hinner

/-! ### Positions -/

/-- The query at a position, which is given by the numbers of the clauses to go down
to. -/
def subqueryAt? (t : Query) : List ℕ → Option Query
  | [] => some t
  | i :: p => t.clauses[i]?.bind fun c => c.subqueryAt? p

/-- The query with `s` at a position; the joins above are made anew. -/
def replaceAt : Query → List ℕ → Query → Query
  | _, [], s => s
  | .join o cs _, i :: p, s => joined o (cs.modify i (·.replaceAt p s))
  | t, _ :: _, _ => t

theorem replaceAt_nil (t s : Query) : t.replaceAt [] s = s := by
  cases t <;> rfl

theorem subqueryAt?_cons_eq_some {t s : Query} {i : ℕ} {p : List ℕ} :
    t.subqueryAt? (i :: p) = some s ↔ ∃ o cs g c, t = .join o cs g ∧ cs[i]? = some c ∧
      c.subqueryAt? p = some s := by
  cases t <;> simp [subqueryAt?, clauses, Option.bind_eq_some_iff]

/-- **The queries inside a query are those at its positions.** -/
theorem mem_subqueries_iff {t s : Query} :
    s ∈ t.subqueries ↔ ∃ p, t.subqueryAt? p = some s := by
  constructor
  · intro h
    induction t using clause_induction with
    | empty => exact ⟨[], by simpa [subqueries, eq_comm, subqueryAt?] using h⟩
    | leaf l => exact ⟨[], by simpa [subqueries, eq_comm, subqueryAt?] using h⟩
    | join o cs g ih =>
      rw [subqueries, clauseSubqueries_eq, List.mem_cons, List.mem_flatMap] at h
      rcases h with rfl | ⟨c, hc, hs⟩
      · exact ⟨[], rfl⟩
      · obtain ⟨i, hi⟩ := List.mem_iff_getElem?.1 hc
        obtain ⟨p, hp⟩ := ih c hc hs
        exact ⟨i :: p, subqueryAt?_cons_eq_some.2 ⟨o, cs, g, c, rfl, hi, hp⟩⟩
  · rintro ⟨p, hp⟩
    induction p generalizing t with
    | nil =>
      obtain rfl : t = s := Option.some.inj hp
      exact mem_subqueries_self t
    | cons i p ih =>
      obtain ⟨o, cs, g, c, rfl, hc, hp⟩ := subqueryAt?_cons_eq_some.1 hp
      exact mem_subqueries_join (List.mem_of_getElem? hc) (ih hp)

/-- A list with one entry changed, entry by entry. -/
theorem forall₂_modify {α : Type*} {R : α → α → Prop} (hrefl : ∀ x, R x x) {f : α → α}
    {l : List α} {i : ℕ} {a : α} (hi : l[i]? = some a) (ha : R a (f a)) :
    List.Forall₂ R l (l.modify i f) := by
  have hsame : ∀ l : List α, List.Forall₂ R l l := fun l => List.forall₂_same.2 fun x _ => hrefl x
  induction l generalizing i with
  | nil => simp at hi
  | cons b l ih =>
    cases i with
    | zero =>
      obtain rfl : b = a := by simpa using hi
      exact .cons ha (hsame l)
    | succ i => exact .cons (hrefl b) (ih (by simpa using hi))

theorem Built.of_getElem? {o : Operator} {cs : List Query} {g : Bool} (h : (join o cs g).Built)
    {i : ℕ} {c : Query} (hc : cs[i]? = some c) : c.Built :=
  h.of_mem_subqueries (mem_subqueries_join (List.mem_of_getElem? hc) (mem_subqueries_self c))

/-- **A query with a part replaced by one that does the same** does the same. -/
theorem Built.interchangeable_replaceAt {t s s' : Query} {p : List ℕ} (ht : t.Built)
    (h : t.subqueryAt? p = some s) (hs : Interchangeable s s') :
    Interchangeable t (t.replaceAt p s') := by
  induction p generalizing t with
  | nil =>
    obtain rfl : t = s := Option.some.inj h
    rw [replaceAt_nil]
    exact hs
  | cons i p ih =>
    obtain ⟨o, cs, g, c, rfl, hc, hp⟩ := subqueryAt?_cons_eq_some.1 h
    have hclauses : List.Forall₂ Interchangeable cs (cs.modify i (·.replaceAt p s')) :=
      forall₂_modify Interchangeable.refl hc (ih (ht.of_getElem? hc) hp)
    have hjoined := Interchangeable.joined (o := o) hclauses
    rw [ht.joined_clauses] at hjoined
    exact hjoined

/-- **A normal form in place of a clause leaves the text unchanged.**  A clause of a
join at any depth, which is not empty and has no blank join inside, can be replaced by
its normal form: that is tidy at every depth, and the text of the query stays the same,
however many clauses are present beside it. -/
theorem render_replaceAt_reduced {t s : Query} {p : List ℕ} (ht : t.Built) (hp : p ≠ [])
    (h : t.subqueryAt? p = some s) (hne : s ≠ .empty)
    (hblank : ∀ r ∈ s.subqueries, ¬ r.IsBlank) :
    (∀ r ∈ s.reduced.subqueries, r.Tidy) ∧ (t.replaceAt p s.reduced).render = t.render := by
  refine ⟨tidy_of_mem_reduced s, ?_⟩
  have hs : s.Built := ht.of_mem_subqueries (mem_subqueries_iff.2 ⟨p, h⟩)
  have hsame : Interchangeable s s.reduced := hs.interchangeable_reduced ⟨hne, hblank⟩
  cases p with
  | nil => exact absurd rfl hp
  | cons i p =>
    obtain ⟨o, cs, g, c, rfl, hc, hcs⟩ := subqueryAt?_cons_eq_some.1 h
    -- the clause of the outermost join that holds `s` does the same as before
    have hclause := (ht.of_getElem? hc).interchangeable_replaceAt hcs hsame
    have hclauses : List.Forall₂ Interchangeable cs (cs.modify i (·.replaceAt p s.reduced)) :=
      forall₂_modify Interchangeable.refl hc hclause
    have h2 : 2 ≤ cs.length := ht.shaped.1
    calc ((join o cs g).replaceAt (i :: p) s.reduced).render
        = (joined o (cs.modify i (·.replaceAt p s.reduced))).render := by rw [replaceAt]
      _ = (joined o cs).render := by
          rw [render_joined_of_two_le o h2, render_joined_of_two_le o (by simpa using h2),
            map_inner_present hclauses]
      _ = (join o cs g).render := by rw [ht.joined_clauses]

/-- Two values that are asked for among empty clauses. -/
def crowded : Query := any [.empty, all [.empty, bothSet]]

/-- The same, under a join with one clause present and beside another value. -/
def beside : Query := any [all [crowded, .empty], (Selector.excluding "c").is (.text "3")]

theorem built_beside : beside.Built := by
  have hc := Built.completed (.excluding "c") (.is (.text "3"))
  have hinner := Built.joined .and (List.forall_mem_cons.2
    ⟨.empty, List.forall_mem_singleton.2 built_bothSet⟩)
  have hcrowded : crowded.Built := Built.joined .or (List.forall_mem_cons.2
    ⟨.empty, List.forall_mem_singleton.2 hinner⟩)
  have houter := Built.joined .and (List.forall_mem_cons.2
    ⟨hcrowded, List.forall_mem_singleton.2 .empty⟩)
  exact .joined .or (List.forall_mem_cons.2 ⟨houter, List.forall_mem_singleton.2 hc⟩)

theorem render_replaceAt_reduced_beside :
    beside.Built ∧ beside.render = "(a:1 AND b:2) OR (*:* -c:3)" ∧
      beside.subqueryAt? [0, 0] = some crowded ∧ crowded ≠ .empty ∧
      (∀ r ∈ crowded.subqueries, ¬ r.IsBlank) ∧ crowded.reduced = bothSet ∧
      (beside.replaceAt [0, 0] bothSet).render = "(a:1 AND b:2) OR (*:* -c:3)" := by
  have hrender : beside.render = "(a:1 AND b:2) OR (*:* -c:3)" := by decide +kernel
  have hat : beside.subqueryAt? [0, 0] = some crowded := rfl
  have hne : crowded ≠ .empty := by decide
  have hblank : ∀ r ∈ crowded.subqueries, ¬ r.IsBlank := by decide
  obtain ⟨-, hreplaced⟩ :=
    render_replaceAt_reduced built_beside (List.cons_ne_nil 0 [0]) hat hne hblank
  exact ⟨built_beside, hrender, hat, hne, hblank, rfl, hreplaced.trans hrender⟩

end Query

end SearchClient
