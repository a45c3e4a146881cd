import SearchClient.Proofs.Query.Built
import SearchClient.Proofs.Query.Outline

/-!
# The text of a query is unambiguous

Reading the text of a query gives back its normal form: the query without its
empty clauses and without the joins that are left with one clause.  Nothing is
regrouped on the way, although the parentheses of a join were decided when it was
made, long before it is known where the join ends up.

This holds of every query that can be built, if each join has a clause that is
present and if the texts in the leaves keep to themselves: parentheses match and
no operator stands outside them.

## Main definitions

* `Leaf.Legible` — leaves whose texts keep to themselves.
* `Query.normalForm` — the normal form of a query.

## Main results

* `Outline.readChars_intercalate` — a join of solid texts is read as a join.
* `Query.read_render` — **reading the text of a query gives its normal form.**
-/

namespace SearchClient

open Text

/-! ### Solid texts -/

/-- A text that a join can have as a part: its parentheses match and no operator
stands outside of them. -/
structure Solid (cs : List Char) : Prop where
  /-- The parentheses match. -/
  balanced : balanced 0 cs = true
  /-- No operator stands outside of them. -/
  noOperator : ∀ o : Operator, o.word ∉ outerWords 0 cs

theorem Solid.outerOperators {cs : List Char} (h : Solid cs) : outerOperators cs = [] :=
  outerOperators_eq_nil.2 h.noOperator

/-- A balanced text in parentheses is solid, whatever is inside. -/
theorem solid_enclosed {cs : List Char} (h : Text.balanced 0 cs = true) :
    Solid ('(' :: (cs ++ [')'])) where
  balanced := balanced_enclosed h
  noOperator := fun o ho => by
    rw [outerWords_enclosed h, List.mem_singleton] at ho
    cases o <;> simp [Operator.word] at ho

theorem mem_intercalate_singleton {α : Type*} {a x : α} {ls : List (List α)} :
    x ∈ [a].intercalate ls → x = a ∨ ∃ l ∈ ls, x ∈ l := by
  induction ls with
  | nil => intro h; simp at h
  | cons l ls ih =>
    intro h
    cases ls with
    | nil => exact .inr ⟨l, List.mem_singleton.2 rfl, by simpa using h⟩
    | cons m ms =>
      rw [List.intercalate_cons_cons, List.append_assoc, List.mem_append, List.mem_append,
        List.mem_singleton] at h
      rcases h with h | rfl | h
      · exact .inr ⟨l, List.mem_cons_self, h⟩
      · exact .inl rfl
      · rcases ih h with rfl | ⟨n, hn, hx⟩
        · exact .inl rfl
        · exact .inr ⟨n, List.mem_cons_of_mem _ hn, hx⟩

theorem mem_intercalate_of_two_le {α : Type*} (a : α) {ls : List (List α)} (h : 2 ≤ ls.length) :
    a ∈ [a].intercalate ls := by
  match ls, h with
  | l :: m :: ls, _ => simp [List.intercalate_cons_cons]

/-- Texts with an operator between any two are balanced together. -/
theorem balanced_intercalate_token (o : Operator) {ts : List (List Char)}
    (hts : ∀ t ∈ ts, Solid t) : Text.balanced 0 (o.token.toList.intercalate ts) = true :=
  balanced_intercalate (by cases o <;> decide) fun t ht => (hts t ht).balanced

/-- The outer words of a join are those of its parts and the operator. -/
theorem outerWords_intercalate_token (o : Operator) {ts : List (List Char)}
    (h2 : 2 ≤ ts.length) (hts : ∀ t ∈ ts, Solid t) :
    outerWords 0 (o.token.toList.intercalate ts) = [o.word].intercalate (ts.map (outerWords 0)) := by
  have hne : ts ≠ [] := by rintro rfl; simp at h2
  rw [o.toList_token]
  exact outerWords_intercalate o.outerWords_word o.balanced_word hne fun t ht => (hts t ht).balanced

/-- The operator occurs between the parts of a join, and no operator occurs
inside one of them. -/
theorem outerOperators_intercalate_token (o : Operator) {ts : List (List Char)}
    (h2 : 2 ≤ ts.length) (hts : ∀ t ∈ ts, Solid t) :
    outerOperators (o.token.toList.intercalate ts) = [o] := by
  refine outerOperators_eq_singleton.2 fun p => ?_
  rw [outerWords_intercalate_token o h2 hts]
  constructor
  · intro hp
    rcases mem_intercalate_singleton hp with hpo | ⟨ws, hws, hp⟩
    · exact Operator.word_injective hpo
    · obtain ⟨t, ht, rfl⟩ := List.mem_map.1 hws
      exact absurd hp ((hts t ht).noOperator p)
  · rintro rfl
    exact mem_intercalate_of_two_le _ (by simpa using h2)

/-- Cutting a join at its operator gives its parts. -/
theorem segments_intercalate_token (o : Operator) {ts : List (List Char)}
    (h2 : 2 ≤ ts.length) (hts : ∀ t ∈ ts, Solid t) :
    segments o (o.token.toList.intercalate ts) = ts := by
  have hne : ts ≠ [] := by rintro rfl; simp at h2
  have hparts : ∀ ws ∈ ts.map (outerWords 0), o.word ∉ ws := by
    intro ws hws
    obtain ⟨t, ht, rfl⟩ := List.mem_map.1 hws
    exact (hts t ht).noOperator o
  rw [segments, outerWords_intercalate_token o h2 hts,
    List.splitOn_intercalate _ hparts (by simpa using hne), List.map_map]
  refine (List.map_congr_left fun t _ => ?_).trans (List.map_id ts)
  exact intercalate_outerWords 0 t

/-- **A join of solid texts is read as a join of what they are read as.** -/
theorem Outline.readChars_intercalate (o : Operator) {ts : List (List Char)}
    (h2 : 2 ≤ ts.length) (hts : ∀ t ∈ ts, Solid t) :
    readChars (o.token.toList.intercalate ts) = (ts.mapM readChars).map (.join o) := by
  rw [readChars_join (outerOperators_intercalate_token o h2 hts),
    segments_intercalate_token o h2 hts]

/-- **Parentheses around a join of solid texts do not change how it is read.** -/
theorem Outline.readChars_enclosed_intercalate (o : Operator) {ts : List (List Char)}
    (h2 : 2 ≤ ts.length) (hts : ∀ t ∈ ts, Solid t) :
    readChars ('(' :: (o.token.toList.intercalate ts ++ [')']))
      = readChars (o.token.toList.intercalate ts) := by
  have hb := balanced_intercalate_token o hts
  refine readChars_enclosed (solid_enclosed hb).outerOperators (inside?_enclosed hb) ?_
  rw [outerOperators_intercalate_token o h2 hts]
  simp

/-! ### Clauses -/

/-- The text of a clause without the mark of exclusion. -/
def Leaf.bare (l : Leaf) : String := l.lead.getD "" ++ l.field ++ ":" ++ l.value

/-- A leaf whose texts keep to themselves. -/
structure Leaf.Legible (l : Leaf) : Prop where
  /-- The parentheses of the whole clause match. -/
  balanced : balanced 0 l.bare.toList = true
  /-- No operator stands outside of them. -/
  noOperator : ∀ o : Operator, o.word ∉ outerWords 0 l.bare.toList
  /-- The lead holds no parenthesis. -/
  lead_plain : '(' ∉ (l.lead.getD "").toList ∧ ')' ∉ (l.lead.getD "").toList
  /-- The field holds no parenthesis. -/
  field_plain : '(' ∉ l.field.toList ∧ ')' ∉ l.field.toList

instance (l : Leaf) : Decidable l.Legible :=
  decidable_of_iff
    (Text.balanced 0 l.bare.toList = true ∧ outerOperators l.bare.toList = [] ∧
      ('(' ∉ (l.lead.getD "").toList ∧ ')' ∉ (l.lead.getD "").toList) ∧
      '(' ∉ l.field.toList ∧ ')' ∉ l.field.toList)
    ⟨fun h => ⟨h.1, outerOperators_eq_nil.1 h.2.1, h.2.2.1, h.2.2.2⟩,
      fun h => ⟨h.balanced, outerOperators_eq_nil.2 h.noOperator, h.lead_plain, h.field_plain⟩⟩

/-- A legible clause does not start with a parenthesis. -/
theorem Leaf.Legible.exists_cons {l : Leaf} (h : l.Legible) :
    ∃ c cs, l.bare.toList = c :: cs ∧ c ≠ '(' := by
  have happend : l.bare.toList
      = (l.lead.getD "").toList ++ (l.field.toList ++ ':' :: l.value.toList) := by
    simp [bare]
  rw [happend]
  cases hl : (l.lead.getD "").toList with
  | cons c cs =>
    refine ⟨c, _, rfl, ?_⟩
    rintro rfl
    exact h.lead_plain.1 (hl ▸ List.mem_cons_self)
  | nil =>
    cases hf : l.field.toList with
    | cons c cs =>
      refine ⟨c, _, rfl, ?_⟩
      rintro rfl
      exact h.field_plain.1 (hf ▸ List.mem_cons_self)
    | nil => exact ⟨':', _, rfl, by decide⟩

/-- What an excluded clause takes its documents away from. -/
private theorem toList_render_excluded {l : Leaf} (hlead : l.lead = none)
    (hx : l.excluded = true) :
    l.render.toList = '(' :: (("*:*".toList ++ ' ' :: '-' :: l.bare.toList) ++ [')']) := by
  simp [Leaf.render, Leaf.bare, hlead, hx, matchAll]

private theorem toList_render_included {l : Leaf} (hx : l.excluded = false) :
    l.render.toList = l.bare.toList := by
  simp [Leaf.render, Leaf.bare, hx]

/-- The words inside an excluded clause are not operators: the mark of exclusion
stands at the first word of the clause. -/
private theorem noOperator_excluded {l : Leaf} (h : l.Legible) (o : Operator) :
    o.word ∉ outerWords 0 ("*:*".toList ++ ' ' :: '-' :: l.bare.toList) := by
  rw [outerWords_append_space (by decide), outerWords_cons (by decide) (rfl : nest 0 '-' = some 0)]
  have hno := h.noOperator o
  -- the first outer word of the clause gets the mark of exclusion, the others stay
  cases hw : outerWords 0 l.bare.toList with
  | nil => exact absurd hw (outerWords_ne_nil _ _)
  | cons w ws =>
    rw [hw] at hno
    intro ho
    rcases List.mem_append.1 ho with ho | ho
    · revert ho
      cases o <;> decide
    · rw [List.modifyHead_cons, List.mem_cons] at ho
      rcases ho with ho | ho
      · cases o <;> simp [Operator.word] at ho
      · exact hno (List.mem_cons_of_mem _ ho)

/-- **A legible clause is solid and is read as a clause.** -/
theorem Leaf.Legible.readChars_render {l : Leaf} (h : l.Legible)
    (hlead : l.lead = none ∨ l.excluded = false) :
    Solid l.render.toList ∧ Outline.readChars l.render.toList = some (.clause l.render) := by
  cases hx : l.excluded with
  | false =>
    -- the clause is its own text
    have hsolid : Solid l.render.toList := by
      rw [toList_render_included hx]
      exact ⟨h.balanced, h.noOperator⟩
    refine ⟨hsolid, ?_⟩
    rw [Outline.readChars_clause hsolid.outerOperators, String.ofList_toList]
    intro body hi
    obtain ⟨c, cs, hc, hne⟩ := h.exists_cons
    rw [toList_render_included hx, hc, inside?_of_ne hne] at hi
    simp at hi
  | true =>
    -- the clause stands in parentheses, with no operator in them
    have hnone : l.lead = none := by simpa [hx] using hlead
    have hb : Text.balanced 0 ("*:*".toList ++ ' ' :: '-' :: l.bare.toList) = true :=
      balanced_append (d := 0) (e := 0) (by decide) h.balanced
    have hsolid : Solid l.render.toList := by
      rw [toList_render_excluded hnone hx]
      exact solid_enclosed hb
    refine ⟨hsolid, ?_⟩
    rw [Outline.readChars_clause hsolid.outerOperators, String.ofList_toList]
    intro body hi
    rw [toList_render_excluded hnone hx, inside?_enclosed hb, Option.some.injEq] at hi
    subst hi
    exact outerOperators_eq_nil.2 (noOperator_excluded h)

/-! ### Normal forms -/

/-- A join with the trivial cases collapsed. -/
def Outline.joined? (o : Operator) : List Outline → Option Outline
  | [] => none
  | [f] => some f
  | f :: g :: fs => some (.join o (f :: g :: fs))

namespace Query

mutual

/-- The outline of a query: empty clauses are left out, and a join that is left
with one clause is replaced by it. -/
def normalForm : Query → Option Outline
  | .empty => none
  | .leaf l => some (.clause l.render)
  | .join o cs _ => Outline.joined? o (normalForms cs)

/-- The outlines of those clauses that have one. -/
def normalForms : List Query → List Outline
  | [] => []
  | c :: cs => (normalForm c).toList ++ normalForms cs

end

theorem normalForms_present (cs : List Query) : normalForms (present cs) = normalForms cs := by
  induction cs with
  | nil => rfl
  | cons c cs ih =>
    cases c with
    | empty => rw [present_cons, isEmpty_empty, if_pos rfl, ih, normalForms, normalForm]; rfl
    | leaf l => rw [present_cons, isEmpty_leaf, if_neg (by simp), normalForms, normalForms, ih]
    | join o ds g =>
      rw [present_cons, isEmpty_join, if_neg (by simp), normalForms, normalForms, ih]

theorem normalForms_eq_map {cs : List Query} {f : Query → Outline}
    (h : ∀ c ∈ cs, normalForm c = some (f c)) : normalForms cs = cs.map f := by
  induction cs with
  | nil => rfl
  | cons c cs ih =>
    rw [normalForms, h c List.mem_cons_self, ih fun d hd => h d (List.mem_cons_of_mem _ hd)]
    rfl

/-! ### Reading a query's text -/

/-- `q.ReadsAs f` says that `f` is the normal form of `q` and is read off its
text, both where it stands alone and where it is a clause of a join. -/
structure ReadsAs (q : Query) (f : Outline) : Prop where
  /-- `f` is the normal form. -/
  form : q.normalForm = some f
  /-- A join can have the text as a part. -/
  solid : Solid q.inner.toList
  /-- The text inside a join is read as `f`. -/
  readInner : Outline.readChars q.inner.toList = some f
  /-- The text on its own is read as `f`. -/
  readAlone : Outline.readChars q.render.toList = some f

theorem mapM_readChars_inner {cs : List Query} {f : Query → Outline}
    (h : ∀ c ∈ cs, ReadsAs c (f c)) :
    (cs.map fun c => c.inner.toList).mapM Outline.readChars = some (cs.map f) := by
  induction cs with
  | nil => rfl
  | cons c cs ih =>
    have ih := ih fun d hd => h d (List.mem_cons_of_mem _ hd)
    rw [List.map_cons, List.mapM_cons, (h c List.mem_cons_self).readInner, ih]
    rfl

/-- A join with a single present clause reads as that clause. -/
theorem readsAs_join_one {o : Operator} {cs : List Query} {c : Query} {f : Outline}
    (hp : present cs = [c]) (h : c.ReadsAs f) : (join o cs false).ReadsAs f := by
  have hrender : render (.join o cs false) = c.inner := by
    rw [render_join, hp, List.map_singleton, String.intercalate_singleton]
  have hinner : inner (.join o cs false) = c.inner := by
    rw [inner_join, if_neg (by simp), hrender]
  refine ⟨?_, ?_, ?_, ?_⟩
  · rw [normalForm, ← normalForms_present, hp, normalForms, h.form]
    rfl
  · rw [hinner]; exact h.solid
  · rw [hinner]; exact h.readInner
  · rw [hrender]; exact h.readInner

/-- A grouped join of two clauses or more reads as the join of those present. -/
theorem readsAs_join_many {o : Operator} {cs : List Query} {f : Query → Outline}
    (h2 : 2 ≤ (present cs).length) (h : ∀ c ∈ present cs, c.ReadsAs (f c)) :
    (join o cs true).ReadsAs (.join o ((present cs).map f)) := by
  have hlen : 2 ≤ ((present cs).map fun c => c.inner.toList).length := by simpa using h2
  have hsolid : ∀ t ∈ (present cs).map (fun c => c.inner.toList), Solid t := by
    intro t ht
    obtain ⟨c, hc, rfl⟩ := List.mem_map.1 ht
    exact (h c hc).solid
  -- the text on its own, and as a clause
  have hrender : (render (.join o cs true)).toList
      = o.token.toList.intercalate ((present cs).map fun c => c.inner.toList) := by
    rw [render_join, String.toList_intercalate, List.map_map]
    rfl
  have hinner : (inner (.join o cs true)).toList
      = '(' :: (o.token.toList.intercalate ((present cs).map fun c => c.inner.toList) ++ [')']) := by
    rw [inner_join, if_pos rfl, String.toList_append, String.toList_append, hrender]
    rfl
  have hread : Outline.readChars (render (.join o cs true)).toList
      = some (.join o ((present cs).map f)) := by
    rw [hrender, Outline.readChars_intercalate o hlen hsolid, mapM_readChars_inner h]
    rfl
  refine ⟨?_, ?_, ?_, hread⟩
  · rw [normalForm, ← normalForms_present,
      normalForms_eq_map fun c hc => (h c hc).form]
    match present cs, h2 with
    | _ :: _ :: _, _ => rfl
  · rw [hinner]
    exact solid_enclosed (balanced_intercalate_token o hsolid)
  · rw [hinner, Outline.readChars_enclosed_intercalate o hlen hsolid, ← hrender, hread]

/-- Every built query reads as its normal form, if its joins have present clauses
and its leaves are legible. -/
theorem Built.exists_readsAs {q : Query} (hq : q.Built) (hne : q ≠ .empty)
    (hblank : ∀ s ∈ q.subqueries, ¬ s.IsBlank) (hleaf : ∀ l ∈ q.leaves, l.Legible) :
    ∃ f, q.ReadsAs f := by
  induction hq using Built.shape_induction with
  | empty => exact absurd rfl hne
  | leaf l hl hlead =>
    obtain ⟨hsolid, hread⟩ := (hleaf l (by simp [leaves])).readChars_render hlead
    refine ⟨.clause l.render, rfl, ?_, ?_, ?_⟩ <;> simpa
  | join o cs hj h2 ih =>
    -- every present clause reads as its normal form
    have hclause : ∀ c ∈ present cs, c.ReadsAs ((normalForm c).getD default) := by
      intro c hc
      obtain ⟨hmem, hce⟩ := mem_present.1 hc
      obtain ⟨_, ihc⟩ := ih c hmem
      obtain ⟨f, hf⟩ := ihc hce (fun s hs => hblank s (mem_subqueries_join hmem hs))
        fun l hl => hleaf l (mem_leaves_join hmem hl)
      rw [hf.form]
      exact hf
    -- the join was grouped for two present clauses or more, and so it is read
    have hpresent : present cs ≠ [] := hblank _ (mem_subqueries_self _)
    cases hp : present cs with
    | nil => exact absurd hp hpresent
    | cons c rest =>
      cases rest with
      | nil => exact ⟨_, readsAs_join_one hp (hclause c (by simp [hp]))⟩
      | cons d rest =>
        have h1 : 1 < (c :: d :: rest).length := by simp
        rw [decide_eq_true h1]
        exact ⟨_, readsAs_join_many (hp ▸ h1) hclause⟩

/-- **Reading the text of a query gives its normal form**, for every query that
can be built, is not empty, has a present clause in each join and legible
leaves. -/
theorem read_render {q : Query} (hq : q.Built) (hne : q ≠ .empty)
    (hblank : ∀ s ∈ q.subqueries, ¬ s.IsBlank) (hleaf : ∀ l ∈ q.leaves, l.Legible) :
    ∃ f, q.normalForm = some f ∧ Outline.read? q.render = some f := by
  obtain ⟨f, hf⟩ := hq.exists_readsAs hne hblank hleaf
  exact ⟨f, hf.form, hf.readAlone⟩

/-- Documents that are active outside one country, or pinned.  The empty clauses
and the joins with one present clause leave no trace in the text. -/
def activeOrPinned : Query :=
  any [
    all [
      (Selector.including "status").is (.text "(active OR pending)"),
      .empty,
      (Selector.excluding "country").is (.text "US")],
    any [all [.empty, any [(Selector.leading "\x7b!tag=t\x7d" "pinned").isTrue, .empty]]]]

theorem built_activeOrPinned : activeOrPinned.Built := by
  have hstatus := Built.completed (.including "status") (.is (.text "(active OR pending)"))
  have hcountry := Built.completed (.excluding "country") (.is (.text "US"))
  have hpinned := Built.completed (.leading "\x7b!tag=t\x7d" "pinned") .isTrue
  have hleft := Built.joined .and (List.forall_mem_cons.2 ⟨hstatus, List.forall_mem_cons.2
    ⟨.empty, List.forall_mem_singleton.2 hcountry⟩⟩)
  have hright := Built.joined .or (List.forall_mem_singleton.2
    (Built.joined .and (List.forall_mem_cons.2 ⟨.empty, List.forall_mem_singleton.2
      (Built.joined .or (List.forall_mem_cons.2 ⟨hpinned, List.forall_mem_singleton.2 .empty⟩))⟩)))
  exact .joined .or (List.forall_mem_cons.2 ⟨hleft, List.forall_mem_singleton.2 hright⟩)

theorem read_render_activeOrPinned :
    activeOrPinned.Built ∧ activeOrPinned ≠ .empty ∧
      (∀ s ∈ activeOrPinned.subqueries, ¬ s.IsBlank) ∧ (∀ l ∈ activeOrPinned.leaves, l.Legible) ∧
      activeOrPinned.render
        = "(status:(active OR pending) AND (*:* -country:US)) OR \x7b!tag=t\x7dpinned:true" ∧
      Outline.read? activeOrPinned.render
        = some (.join .or [
            .join .and [.clause "status:(active OR pending)", .clause "(*:* -country:US)"],
            .clause "\x7b!tag=t\x7dpinned:true"]) := by
  have hne : activeOrPinned ≠ .empty := by decide
  have hblank : ∀ s ∈ activeOrPinned.subqueries, ¬ s.IsBlank := by decide
  have hleaf : ∀ l ∈ activeOrPinned.leaves, l.Legible := by decide +kernel
  refine ⟨built_activeOrPinned, hne, hblank, hleaf, by decide +kernel, ?_⟩
  obtain ⟨f, hform, hread⟩ := read_render built_activeOrPinned hne hblank hleaf
  rw [hread, ← hform]
  rfl

end Query

end SearchClient
