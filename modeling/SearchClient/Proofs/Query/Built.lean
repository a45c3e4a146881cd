import SearchClient.Query.Render
import SearchClient.Query.Selector

/-!
# The queries that can be built

Queries come from completed selectors, from the empty query and from joins of
queries that are there already.  Whatever the order of these steps, a query that
comes out has at least two clauses in each of its joins, and each join is marked
as grouped exactly when two of its clauses are present.  All that is proved about
the text of a query rests on that, by one induction over the shape of the query.

## Main definitions

* `Selector.Offered`, `Selector.Completes` — the selectors there are, and the
  queries that a selector can be completed to.
* `Query.Built` — the queries that can be built.
* `Query.subqueries`, `Query.leaves` — the queries inside a query, from the left.
* `Query.IsBlank` — joins without a clause that is present.
* `Query.inner` — the text of a query as a clause of a join.

## Main results

* `Query.Built.shape_induction` — **induction over the shape of a built query.**
* `Query.clause_induction` — induction over the clauses of any query.
* `Query.render_join`, `Query.inner_join` — the text of a join is the texts of
  the clauses present with the operator between them.
-/

namespace SearchClient

/-! ### What can be built -/

/-- The selectors that can be made. -/
inductive Selector.Offered : Selector → Prop
  /-- A field that has to have the value. -/
  | including (field : String) : Offered (.including field)
  /-- The same with a text before the clause. -/
  | leading (lead field : String) : Offered (.leading lead field)
  /-- A field that must not have the value. -/
  | excluding (field : String) : Offered (.excluding field)
  /-- One of the two. -/
  | excludingIf (condition : Bool) (field : String) : Offered (.excludingIf condition field)

/-- The queries that a selector can be completed to. -/
inductive Selector.Completes (s : Selector) : Query → Prop
  | isTrue : Completes s s.isTrue
  | isFalse : Completes s s.isFalse
  | is (value : Scalar) : Completes s (s.is value)
  | isOneOf {values : List Scalar} {q : Query} (h : s.isOneOf values = .ok q) : Completes s q
  | isOneOfDistinct {values : List String} {q : Query}
      (h : s.isOneOfDistinct values = .ok q) : Completes s q
  | isWithin (start stop : Int) : Completes s (s.isWithin start stop)
  | isWithinDates {p : Precision} {start stop : DateBound} {q : Query}
      (h : s.isWithinDates p start stop = .ok q) : Completes s q
  | isOnDate {p : Precision} {date : DateBound} {q : Query}
      (h : s.isOnDate p date = .ok q) : Completes s q
  | isWithinAll {p : Precision} {dates : List DateBound} {q : Query}
      (h : s.isWithinAll p dates = .ok q) : Completes s q

/-- The queries that can be built. -/
inductive Query.Built : Query → Prop
  /-- The empty query. -/
  | empty : Built .empty
  /-- The documents without a value in a field. -/
  | absent (field : String) : Built (.absent field)
  /-- A completed selector. -/
  | completed {s : Selector} {q : Query} (hs : s.Offered) (hq : s.Completes q) : Built q
  /-- A join of built queries. -/
  | joined (o : Operator) {qs : List Query} (h : ∀ q ∈ qs, Built q) : Built (.joined o qs)

/-- A selector that excludes has no lead. -/
theorem Selector.Offered.lead_or_included {s : Selector} (h : s.Offered) :
    s.lead = none ∨ s.excluded = false := by
  cases h with
  | including field => exact .inl rfl
  | leading lead field => exact .inr rfl
  | excluding field => exact .inl rfl
  | excludingIf condition field => exact .inl rfl

/-- A completion that can fail gives a leaf of the selector when it does not. -/
private theorem eq_complete_of_map {s : Selector} {x : Except ValueError String} {q : Query}
    (h : x.map s.complete = .ok q) : ∃ value, q = s.complete value := by
  cases x with
  | error e => cases h
  | ok value => exact ⟨value, by cases h; rfl⟩

/-- Every completion of a selector is a leaf with the selector's field and marks. -/
theorem Selector.Completes.eq_complete {s : Selector} {q : Query} (h : s.Completes q) :
    ∃ value, q = s.complete value := by
  cases h with
  | isTrue => exact ⟨_, rfl⟩
  | isFalse => exact ⟨_, rfl⟩
  | is value => exact ⟨_, rfl⟩
  | isOneOf h => exact eq_complete_of_map h
  | isOneOfDistinct h => exact eq_complete_of_map h
  | isWithin start stop => exact ⟨_, rfl⟩
  | isWithinDates h => exact eq_complete_of_map h
  | isOnDate h => exact eq_complete_of_map h
  | isWithinAll h => exact eq_complete_of_map h

namespace Query

/-! ### The shape of a built query -/

/-- **Induction over the shape of a built query.**  A leaf with a lead is not
excluded; a join has two clauses or more and is grouped when two are present. -/
@[elab_as_elim]
theorem Built.shape_induction {P : (q : Query) → q.Built → Prop} {q : Query} (h : q.Built)
    (empty : P .empty .empty)
    (leaf : ∀ (l : Leaf) (hl : Built (.leaf l)), l.lead = none ∨ l.excluded = false → P _ hl)
    (join : ∀ (o : Operator) (cs : List Query)
      (hj : Built (.join o cs (1 < (present cs).length))), 2 ≤ cs.length →
      (∀ c ∈ cs, ∃ hc : c.Built, P c hc) → P _ hj) : P q h := by
  induction h with
  | empty => exact empty
  | absent field => exact leaf _ (.absent field) (.inl rfl)
  | completed hs hq =>
    obtain ⟨value, rfl⟩ := hq.eq_complete
    exact leaf _ (.completed hs hq) hs.lead_or_included
  | @joined o qs h ih =>
    -- no clause and one clause are the cases in which there is no join
    match qs, h, ih with
    | [], _, _ => exact empty
    | [q], _, ih => exact ih q (List.mem_singleton.2 rfl)
    | q :: r :: qs, h, ih =>
      exact join o (q :: r :: qs) (.joined o h) (by simp) fun c hc => ⟨h c hc, ih c hc⟩

/-! ### Parts -/

/-- **Induction over the clauses of a query**, whether it can be built or not. -/
@[elab_as_elim]
theorem clause_induction {P : Query → Prop} (empty : P .empty) (leaf : ∀ l, P (.leaf l))
    (join : ∀ o cs g, (∀ c ∈ cs, P c) → P (.join o cs g)) : ∀ q, P q
  | .empty => empty
  | .leaf l => leaf l
  | .join o cs g => join o cs g fun c _hc => clause_induction empty leaf join c
termination_by q => sizeOf q
decreasing_by
  have hlt := List.sizeOf_lt_of_mem _hc
  rw [Query.join.sizeOf_spec]
  omega

@[simp] theorem mem_present {q : Query} {qs : List Query} :
    q ∈ present qs ↔ q ∈ qs ∧ q ≠ .empty := by
  cases q <;> simp [present]

theorem present_cons (q : Query) (qs : List Query) :
    present (q :: qs) = if q.isEmpty then present qs else q :: present qs := by
  cases q <;> rfl

mutual

/-- The queries inside a query, the query itself included. -/
def subqueries : Query → List Query
  | .empty => [.empty]
  | .leaf l => [.leaf l]
  | .join o cs grouped => .join o cs grouped :: clauseSubqueries cs

/-- The queries inside some clauses. -/
def clauseSubqueries : List Query → List Query
  | [] => []
  | c :: cs => subqueries c ++ clauseSubqueries cs

end

theorem clauseSubqueries_eq (cs : List Query) : clauseSubqueries cs = cs.flatMap subqueries := by
  induction cs with
  | nil => rfl
  | cons c cs ih => rw [clauseSubqueries, ih, List.flatMap_cons]

/-- A query is one of the queries inside it. -/
theorem mem_subqueries_self (q : Query) : q ∈ q.subqueries := by
  cases q <;> simp [subqueries]

/-- What is inside a clause is inside the join. -/
theorem mem_subqueries_join {o : Operator} {cs : List Query} {g : Bool} {c s : Query}
    (hc : c ∈ cs) (hs : s ∈ c.subqueries) : s ∈ (join o cs g).subqueries := by
  rw [subqueries, clauseSubqueries_eq]
  exact List.mem_cons_of_mem _ (List.mem_flatMap.2 ⟨c, hc, hs⟩)

mutual

/-- The leaves of a query, from the left. -/
def leaves : Query → List Leaf
  | .empty => []
  | .leaf l => [l]
  | .join _ cs _ => clauseLeaves cs

/-- The leaves of some clauses. -/
def clauseLeaves : List Query → List Leaf
  | [] => []
  | c :: cs => leaves c ++ clauseLeaves cs

end

theorem clauseLeaves_eq (cs : List Query) : clauseLeaves cs = cs.flatMap leaves := by
  induction cs with
  | nil => rfl
  | cons c cs ih => rw [clauseLeaves, ih, List.flatMap_cons]

/-- A leaf of a clause is a leaf of the join. -/
theorem mem_leaves_join {o : Operator} {cs : List Query} {g : Bool} {c : Query} {l : Leaf}
    (hc : c ∈ cs) (hl : l ∈ c.leaves) : l ∈ (join o cs g).leaves := by
  rw [leaves, clauseLeaves_eq]
  exact List.mem_flatMap.2 ⟨c, hc, hl⟩

/-- A join none of whose clauses is present. -/
def IsBlank : Query → Prop
  | .join _ cs _ => present cs = []
  | _ => False

instance (q : Query) : Decidable q.IsBlank := by
  cases q <;> unfold IsBlank <;> infer_instance

/-! ### The text of a join -/

/-- The text of a query as a clause of a join. -/
def inner (q : Query) : String := textOf q.innerTokens

@[simp] theorem inner_leaf (l : Leaf) : inner (.leaf l) = l.render := by
  simp [inner, innerTokens, Token.text]

/-- The clauses that are skipped leave no token. -/
theorem clauseTokens_present (o : Operator) (first : Bool) (cs : List Query) :
    clauseTokens o first cs = clauseTokens o first (present cs) := by
  induction cs generalizing first with
  | nil => rfl
  | cons c cs ih =>
    rw [present_cons]
    cases hc : c.isEmpty with
    | true => simp only [clauseTokens, hc, if_true, ih]
    | false => simp only [clauseTokens, hc, ih false, Bool.false_eq_true, if_false]

/-- A present clause that follows others stands behind an operator. -/
theorem clauseTokens_false_cons (o : Operator) {c : Query} (hc : c.isEmpty = false)
    (cs : List Query) :
    clauseTokens o false (c :: cs) = .between o :: clauseTokens o true (c :: cs) := by
  simp [clauseTokens, hc]

private theorem clauseTokens_of_forall (o : Operator) {cs : List Query}
    (h : ∀ c ∈ cs, c.isEmpty = false) :
    clauseTokens o true cs = [Token.between o].intercalate (cs.map innerTokens) := by
  induction cs with
  | nil => rfl
  | cons c cs ih =>
    have hc : c.isEmpty = false := h c List.mem_cons_self
    have ih := ih fun d hd => h d (List.mem_cons_of_mem _ hd)
    have hcons : clauseTokens o true (c :: cs) = c.innerTokens ++ clauseTokens o false cs := by
      simp [clauseTokens, hc]
    cases cs with
    | nil => rw [hcons]; simp [clauseTokens]
    | cons d ds =>
      have hd : d.isEmpty = false := h d (List.mem_cons_of_mem _ List.mem_cons_self)
      rw [hcons, clauseTokens_false_cons o hd, ih]
      simp only [List.map_cons]
      rw [List.intercalate_cons_cons, List.append_assoc, List.singleton_append]

/-- **The tokens of a join's clauses** are those of the clauses present, with the
operator between any two. -/
theorem clauseTokens_eq (o : Operator) (cs : List Query) :
    clauseTokens o true cs = [Token.between o].intercalate ((present cs).map innerTokens) := by
  rw [clauseTokens_present]
  refine clauseTokens_of_forall o fun c hc => ?_
  simpa using (List.mem_filter.1 hc).2

theorem textOf_intercalate (o : Operator) (rows : List (List Token)) :
    textOf ([Token.between o].intercalate rows) = o.token.intercalate (rows.map textOf) := by
  induction rows with
  | nil => rfl
  | cons ts rows ih =>
    cases rows with
    | nil => simp
    | cons us rows =>
      rw [List.intercalate_cons_cons, textOf_append, textOf_append, ih]
      simp only [List.map_cons]
      rw [String.intercalate_cons_cons, textOf_cons, textOf_nil, String.append_empty, Token.text]

/-- The text of a join on its own is the texts of the clauses present, with the
operator between any two. -/
theorem render_join (o : Operator) (cs : List Query) (g : Bool) :
    render (.join o cs g) = o.token.intercalate ((present cs).map inner) := by
  rw [render, tokens, clauseTokens_eq, textOf_intercalate, List.map_map]
  rfl

/-- The text of a join inside another one: grouped joins get parentheses. -/
theorem inner_join (o : Operator) (cs : List Query) (g : Bool) :
    inner (.join o cs g)
      = if g then "(" ++ render (.join o cs g) ++ ")" else render (.join o cs g) := by
  cases g with
  | false => rw [inner, innerTokens]; rfl
  | true =>
    rw [inner, innerTokens, if_pos rfl, if_pos rfl, textOf_cons, textOf_append,
      ← String.append_assoc]
    rfl

end Query

end SearchClient
