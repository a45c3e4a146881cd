import SearchClient.Proofs.Query.Built

/-!
# The shape of the queries that can be built

Whatever the order of the steps that made a query, each join in it has at least
two clauses and is marked as grouped exactly when two of them are present, and no
leaf with a lead is excluded.  A join is put over its clauses as they are, so what
was made once keeps its shape at every depth.  Nothing else is common to the
queries that can be built: each query of that shape is one of them.

## Main definitions

* `Query.Shaped` — the shape of a query, seen at its top.

## Main results

* `Query.Built.of_mem_subqueries` — what is inside a built query can be built.
* `Query.built_of_shaped` — a query that is shaped at every depth can be built.
* `Query.built_iff_and_joined_eq` — **the queries that can be built, and the joins.**
-/

namespace SearchClient
namespace Query

/-- The shape of a query at its top: a leaf with a lead is not excluded, and a join
has two clauses or more and is grouped exactly when two of them are present. -/
def Shaped : Query → Prop
  | .empty => True
  | .leaf l => l.lead = none ∨ l.excluded = false
  | .join _ cs grouped => 2 ≤ cs.length ∧ (grouped = true ↔ 2 ≤ (present cs).length)

/-! ### Joins -/

/-- Two clauses or more are put under the operator as they are. -/
theorem joined_of_two_le (o : Operator) {qs : List Query} (h : 2 ≤ qs.length) :
    joined o qs = .join o qs (2 ≤ (present qs).length) := by
  match qs, h with
  | _ :: _ :: _, _ => rfl

/-- A join is empty only if there is nothing to join but the empty query. -/
theorem joined_eq_empty_iff {o : Operator} {qs : List Query} :
    joined o qs = .empty ↔ qs = [] ∨ qs = [.empty] := by
  match qs with
  | [] => simp
  | [q] => simp
  | q :: r :: qs => simp [joined_cons_cons]

/-! ### Built queries are shaped -/

theorem Built.shaped {q : Query} (h : q.Built) : q.Shaped := by
  induction h using Built.shape_induction with
  | empty => trivial
  | leaf l hl hlead => exact hlead
  | join o cs hj h2 ih => exact ⟨h2, by rw [decide_eq_true_iff]; rfl⟩

/-- **What is inside a built query can be built.** -/
theorem Built.of_mem_subqueries {q s : Query} (h : q.Built) (hs : s ∈ q.subqueries) :
    s.Built := by
  induction h using Built.shape_induction with
  | empty =>
    rw [subqueries, List.mem_singleton] at hs
    exact hs ▸ .empty
  | leaf l hl hlead =>
    rw [subqueries, List.mem_singleton] at hs
    exact hs ▸ hl
  | join o cs hj h2 ih =>
    rw [subqueries, clauseSubqueries_eq, List.mem_cons, List.mem_flatMap] at hs
    rcases hs with rfl | ⟨c, hc, hs⟩
    · exact hj
    · obtain ⟨_, ihc⟩ := ih c hc
      exact ihc hs

/-! ### Shaped queries can be built -/

/-- A leaf is the completion of a selector, which is verbatim for texts. -/
theorem built_leaf {l : Leaf} (h : l.lead = none ∨ l.excluded = false) : Built (.leaf l) := by
  obtain ⟨lead, field, value, excluded⟩ := l
  cases lead with
  | none => exact .completed (.excludingIf excluded field) (.is (.text value))
  | some lead =>
    obtain rfl : excluded = false := by simpa using h
    exact .completed (.leading lead field) (.is (.text value))

/-- **A query that is shaped at every depth can be built.** -/
theorem built_of_shaped {q : Query} (h : ∀ s ∈ q.subqueries, s.Shaped) : q.Built := by
  induction q using clause_induction with
  | empty => exact .empty
  | leaf l => exact built_leaf (h _ (mem_subqueries_self _))
  | join o cs g ih =>
    obtain ⟨h2, hgrouped⟩ := h _ (mem_subqueries_self _)
    have hclauses : ∀ c ∈ cs, c.Built := fun c hc =>
      ih c hc fun s hs => h s (mem_subqueries_join hc hs)
    -- the mark is the one that joining the clauses gives
    have hjoin : joined o cs = .join o cs g := by
      rw [joined_of_two_le o h2]
      congr 1
      rw [Bool.eq_iff_iff, decide_eq_true_iff]
      exact hgrouped.symm
    exact hjoin ▸ .joined o hclauses

/-- **The queries that can be built, and the joins.**  The queries that can be built
are those that are shaped at every depth.  Joining gives back the one clause that
there is, gives the empty query for no clause and for an empty clause only, and
puts two clauses or more under the operator in their order and as they are. -/
theorem built_iff_and_joined_eq :
    (∀ q : Query, q.Built ↔ ∀ s ∈ q.subqueries, s.Shaped) ∧
    (∀ (o : Operator) (q : Query), joined o [q] = q) ∧
    ∀ (o : Operator) (qs : List Query),
      (joined o qs = .empty ↔ qs = [] ∨ qs = [.empty]) ∧
      (2 ≤ qs.length → joined o qs = .join o qs (2 ≤ (present qs).length)) := by
  refine ⟨fun q => ⟨?_, built_of_shaped⟩, joined_singleton, fun o qs => ⟨joined_eq_empty_iff, ?_⟩⟩
  · intro h s hs
    exact (h.of_mem_subqueries hs).shaped
  · exact joined_of_two_le o

end Query

end SearchClient
