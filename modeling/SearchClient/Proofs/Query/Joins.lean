import SearchClient.Proofs.Query.Grammar

/-!
# The text of a join

Inside a join a clause has the text that it has on its own, but a join with two
clauses present gets parentheses there.  So the text of a join is known from what
its clauses say on their own, although a clause is written in two ways and its
parentheses were decided when it was made.

Empty clauses leave no trace in that text, whatever their number and wherever they
stand.  They are seen in one case only: joining one clause gives the clause itself,
without parentheses, while with an empty clause beside it the clause stands in a
join and keeps its parentheses.

## Main definitions

* `Query.clauseText` — the text of a query in a join, from its text on its own.
* `Query.Padded` — lists that come of another one by putting in empty queries.
* `Query.LoneJoin` — lists of one join with two clauses present.

## Main results

* `Query.Built.inner_eq` — a clause of a join is written as `clauseText` says.
* `Query.inner_joined` — the text of a join inside another one.
* `Query.render_joined_of_built` — **the text of a join from those of its clauses.**
* `Query.render_joined_padded` — **empty clauses in a join**, and
  `Query.render_any_bothSet`, where they are seen.
-/

namespace SearchClient
namespace Query

/-! ### Clauses -/

instance : (q : Query) → Decidable q.Branches
  | empty | leaf _ => inferInstanceAs (Decidable False)
  | join _ cs _ => inferInstanceAs (Decidable (2 ≤ (present cs).length))

/-- The text of a query in a join: a join with two clauses present stands in
parentheses. -/
def clauseText (q : Query) : String :=
  if q.Branches then "(" ++ q.render ++ ")" else q.render

/-- **A clause of a join is written as on its own**, up to parentheses. -/
theorem Built.inner_eq {q : Query} (h : q.Built) : q.inner = q.clauseText := by
  cases q with
  | empty => rfl
  | leaf l => rw [inner_leaf, clauseText, if_neg (by simp [Branches]), render_leaf]
  | join o cs g =>
    obtain ⟨-, hgrouped⟩ := h.shaped
    rw [inner_join, clauseText]
    exact if_congr hgrouped rfl rfl

/-! ### Joins -/

/-- Lists of one join with two clauses present. -/
def LoneJoin : List Query → Prop
  | [q] => q.Branches
  | _ => False

instance (cs : List Query) : Decidable (LoneJoin cs) :=
  match cs with
  | [] => inferInstanceAs (Decidable False)
  | [q] => inferInstanceAs (Decidable q.Branches)
  | _ :: _ :: _ => inferInstanceAs (Decidable False)

/-- Two clauses or more are written one after the other. -/
theorem render_joined_of_two_le (o : Operator) {cs : List Query} (h : 2 ≤ cs.length) :
    render (joined o cs) = o.token.intercalate ((present cs).map inner) := by
  rw [joined_of_two_le o h, render_join]

/-- So is every other list of clauses, but for a lone join. -/
theorem render_joined_of_not_loneJoin (o : Operator) {cs : List Query}
    (hcs : ∀ c ∈ cs, c.Built) (h : ¬ LoneJoin cs) :
    render (joined o cs) = o.token.intercalate ((present cs).map inner) := by
  match cs with
  | [] => rfl
  | [q] =>
    have hbranches : ¬ q.Branches := h
    have hq : q.inner = q.render := by
      rw [(hcs q List.mem_cons_self).inner_eq, clauseText, if_neg hbranches]
    rw [joined_singleton, present_cons]
    cases q with
    | empty => rfl
    | leaf l => simp [present]
    | join o' ds g => simp [present, hq]
  | _ :: _ :: _ => exact render_joined_of_two_le o (by simp)

/-- **The text of a join inside another one** is fixed by the texts of the clauses
present. -/
theorem inner_joined (o : Operator) (cs : List Query) :
    inner (joined o cs) =
      if 2 ≤ (present cs).length then
        "(" ++ o.token.intercalate ((present cs).map inner) ++ ")"
      else o.token.intercalate ((present cs).map inner) := by
  match cs with
  | [] => rfl
  | [q] => cases q <;> simp [present, inner, innerTokens]
  | q :: r :: qs =>
    rw [joined_of_two_le o (by simp), inner_join, render_join]
    simp

/-- **The text of a join from those of its clauses.**  A join of two clauses or more
is written as the clauses present, with the operator between any two and with
parentheses around those of them that are joins with two clauses present. -/
theorem render_joined_of_built (o : Operator) {cs : List Query} (h2 : 2 ≤ cs.length)
    (hcs : ∀ c ∈ cs, c.Built) :
    (joined o cs).render = o.token.intercalate ((present cs).map clauseText) := by
  rw [render_joined_of_two_le o h2]
  congr 1
  refine List.map_congr_left fun c hc => ?_
  exact (hcs c (mem_present.1 hc).1).inner_eq

/-- Two fields that have to have a value each. -/
def bothSet : Query :=
  all [(Selector.including "a").is (.text "1"), (Selector.including "b").is (.text "2")]

theorem built_bothSet : bothSet.Built := by
  have ha := Built.completed (.including "a") (.is (.text "1"))
  have hb := Built.completed (.including "b") (.is (.text "2"))
  exact .joined .and (List.forall_mem_cons.2 ⟨ha, List.forall_mem_singleton.2 hb⟩)

/-- Empty clauses on all sides, a join in parentheses and an excluded value, which has its own. -/
def withEmpties : List Query :=
  [.empty, bothSet, .empty, .empty, (Selector.excluding "c").is (.text "3"), .empty]

theorem built_of_mem_withEmpties : ∀ c ∈ withEmpties, c.Built := by
  have hc := Built.completed (.excluding "c") (.is (.text "3"))
  simp [withEmpties, built_bothSet, Built.empty, hc]

theorem render_joined_withEmpties :
    2 ≤ withEmpties.length ∧ (∀ c ∈ withEmpties, c.Built) ∧
      (joined .or withEmpties).render = "(a:1 AND b:2) OR (*:* -c:3)" := by
  refine ⟨by decide, built_of_mem_withEmpties, ?_⟩
  rw [render_joined_of_built .or (by decide) built_of_mem_withEmpties]
  decide +kernel

/-! ### Empty clauses -/

/-- `Padded cs ds` says that `ds` comes of `cs` by putting in empty queries. -/
inductive Padded : List Query → List Query → Prop
  /-- Nothing is put into nothing. -/
  | nil : Padded [] []
  /-- A query is kept. -/
  | keep (q : Query) {cs ds : List Query} (h : Padded cs ds) : Padded (q :: cs) (q :: ds)
  /-- An empty query is put in. -/
  | skip {cs ds : List Query} (h : Padded cs ds) : Padded cs (.empty :: ds)

namespace Padded

variable {cs ds : List Query}

/-- The queries present stay as they are. -/
theorem present_eq (h : Padded cs ds) : present ds = present cs := by
  induction h with
  | nil => rfl
  | keep q _ ih => rw [present_cons, present_cons, ih]
  | skip _ ih => rw [present_cons, isEmpty_empty, if_pos rfl, ih]

/-- What is put in is empty. -/
theorem mem_or_eq_empty (h : Padded cs ds) {q : Query} (hq : q ∈ ds) : q ∈ cs ∨ q = .empty := by
  by_cases he : q = .empty
  · exact .inr he
  · have hpresent : q ∈ present ds := mem_present.2 ⟨hq, he⟩
    rw [h.present_eq] at hpresent
    exact .inl (mem_present.1 hpresent).1

/-- A list gets longer unless nothing is put in. -/
theorem eq_or_length_lt (h : Padded cs ds) : ds = cs ∨ cs.length < ds.length := by
  induction h with
  | nil => exact .inl rfl
  | keep q _ ih =>
    rcases ih with rfl | hlt
    · exact .inl rfl
    · exact .inr (by simpa using hlt)
  | skip _ ih =>
    rcases ih with rfl | hlt
    · exact .inr (by simp)
    · exact .inr (by simp only [List.length_cons]; omega)

/-- A list that is not a lone join does not become one. -/
theorem not_loneJoin (h : Padded cs ds) (hcs : ¬ LoneJoin cs) : ¬ LoneJoin ds := by
  match ds, h with
  | [], _ => exact id
  | [q], .keep _ .nil => exact hcs
  | [_], .skip .nil => exact id
  | _ :: _ :: _, _ => exact id

end Padded

private theorem enclosed_ne (s : String) : "(" ++ s ++ ")" ≠ s := by
  intro h
  have hlen := congrArg String.length h
  simp only [String.length_append] at hlen
  have hopen : "(".length = 1 := rfl
  omega

/-- A lone join with empty clauses beside it stands in parentheses. -/
theorem Padded.render_of_loneJoin (o : Operator) {cs ds : List Query} (h : Padded cs ds)
    (hcs : ∀ c ∈ cs, c.Built) (hlone : LoneJoin cs) (hne : ds ≠ cs) :
    (joined o ds).render = "(" ++ (joined o cs).render ++ ")" := by
  match cs, hlone with
  | [q], hlone =>
    have hq : q.Branches := hlone
    have hlen : 2 ≤ ds.length := h.eq_or_length_lt.resolve_left hne
    have hpresent : present ds = [q] := by
      rw [h.present_eq]
      cases q <;> first | rfl | exact absurd hq id
    calc (joined o ds).render
        = q.inner := by
          rw [render_joined_of_two_le o hlen, hpresent, List.map_singleton,
            String.intercalate_singleton]
      _ = "(" ++ q.render ++ ")" := by
          rw [(hcs q List.mem_cons_self).inner_eq, clauseText, if_pos hq]
      _ = "(" ++ (joined o [q]).render ++ ")" := by rw [joined_singleton]

/-- The clauses present are all that is seen of the others. -/
theorem Padded.render_of_not_loneJoin (o : Operator) {cs ds : List Query}
    (h : Padded cs ds) (hcs : ∀ c ∈ cs, c.Built) (hlone : ¬ LoneJoin cs) :
    (joined o ds).render = (joined o cs).render := by
  have hds : ∀ d ∈ ds, d.Built := by
    intro d hd
    rcases h.mem_or_eq_empty hd with hmem | rfl
    · exact hcs d hmem
    · exact .empty
  rw [render_joined_of_not_loneJoin o hcs hlone,
    render_joined_of_not_loneJoin o hds (h.not_loneJoin hlone), h.present_eq]

/-- **Empty clauses in a join.**  Putting in empty clauses leaves the text of a join
unchanged, except that a lone join gets the parentheses which it has inside a join. -/
theorem render_joined_padded (o : Operator) {cs ds : List Query} (hcs : ∀ c ∈ cs, c.Built)
    (h : Padded cs ds) :
    ((joined o ds).render = (joined o cs).render ↔ (LoneJoin cs → ds = cs)) ∧
    (LoneJoin cs → ds ≠ cs → (joined o ds).render = "(" ++ (joined o cs).render ++ ")") := by
  have henclosed := h.render_of_loneJoin o hcs
  refine ⟨⟨fun heq hlone => ?_, fun hsame => ?_⟩, henclosed⟩
  · by_contra hne
    exact enclosed_ne _ ((henclosed hlone hne).symm.trans heq)
  · by_cases hlone : LoneJoin cs
    · rw [hsame hlone]
    · exact h.render_of_not_loneJoin o hcs hlone

/-- An empty clause beside two joins is not seen, and one beside a single join is. -/
theorem render_joined_padded_bothSet :
    (∀ c ∈ [bothSet, bothSet], c.Built) ∧ Padded [bothSet] [.empty, bothSet] ∧
      (joined .or [.empty, bothSet, bothSet]).render = (joined .or [bothSet, bothSet]).render ∧
      (joined .or [.empty, bothSet]).render = "(" ++ (joined .or [bothSet]).render ++ ")" := by
  have hboth : ∀ c ∈ [bothSet, bothSet], c.Built := by simp [built_bothSet]
  have hone : ∀ c ∈ [bothSet], c.Built := by simp [built_bothSet]
  have hpadded : Padded [bothSet] [.empty, bothSet] := .skip (.keep _ .nil)
  refine ⟨hboth, hpadded, ?_, ?_⟩
  · exact (render_joined_padded .or hboth (.skip (.keep _ (.keep _ .nil)))).1.2 (absurd · id)
  · exact (render_joined_padded .or hone hpadded).2 (by decide) (by decide)

/-- **An empty clause is seen beside a lone join**: it gets parentheses. -/
theorem render_any_bothSet :
    bothSet.Built ∧ Padded [bothSet] [bothSet, .empty] ∧
      (any [bothSet]).render = "a:1 AND b:2" ∧
      (any [bothSet, .empty]).render = "(a:1 AND b:2)" ∧
      (any [bothSet, .empty]).render ≠ (any [bothSet]).render := by
  have hpadded : Padded [bothSet] [bothSet, .empty] := .keep _ (.skip .nil)
  exact ⟨built_bothSet, hpadded, by decide +kernel, by decide +kernel, by decide +kernel⟩

end Query

end SearchClient
