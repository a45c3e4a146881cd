import Mathlib.Data.List.Basic
import SearchClient.Proofs.Query.Shape

/-!
# The grammar of a query's tokens

The tokens of a query are well formed when they are a sentence: one item, or items
with one operator between any two.  An item is an atom, or such a row of items in
parentheses.

A join of empty clauses is present in the join above it and yet leaves no token,
so an operator may be left without an operand.  Where that happens is seen by
scanning the tokens from the left with one bit of memory, whether an operand or an
operator comes next.  Every sentence passes the scan; the tokens of a built query
pass it only if no join in it is blank, and then they are a sentence.

## Main definitions

* `atoms` — the leaves in a row of tokens.
* `Item`, `Sentence` — the grammar.
* `Place`, `scan` — what comes next, and scanning.
* `Query.Sound` — queries that are not empty, without a blank join.
* `Query.Branches`, `Query.Silent` — joins with two clauses present; queries without
  such joins and without leaves.

## Main results

* `Query.atoms_tokens` — the atoms of a query are its leaves.
* `Query.Built.scan_tokens` — the tokens of a sound query pass the scan, and no others.
* `Query.Built.sentence_tokens` — the tokens of a sound query are a sentence.
* `Query.Built.sentence_iff_and_render_eq_empty_iff` — **which queries are well
  formed, and which have no text.**
-/

namespace SearchClient
namespace Query

/-! ### The grammar -/

/-- The leaf that a token stands for. -/
def Token.leaf? : Token → Option Leaf
  | .atom l => some l
  | _ => none

/-- The leaves in a row of tokens, from the left. -/
def atoms (ts : List Token) : List Leaf := ts.filterMap Token.leaf?

/-- The items: an atom, or two items and more in parentheses, with one operator
between any two. -/
inductive Item : List Token → Prop
  | atom (l : Leaf) : Item [.atom l]
  | group (o : Operator) {items : List (List Token)} (h2 : 2 ≤ items.length)
      (h : ∀ ts ∈ items, Item ts) :
      Item (.opening :: ([.between o].intercalate items ++ [.closing]))

/-- The sentences: an item, or two items and more with one operator between any
two. -/
inductive Sentence : List Token → Prop
  | item {ts : List Token} (h : Item ts) : Sentence ts
  | row (o : Operator) {items : List (List Token)} (h2 : 2 ≤ items.length)
      (h : ∀ ts ∈ items, Item ts) : Sentence ([.between o].intercalate items)

/-! ### Scanning -/

/-- What comes next in a sentence. -/
inductive Place
  /-- An item, or the parenthesis that opens one. -/
  | operand
  /-- An operator, or the end of a row. -/
  | operator
  deriving DecidableEq, Repr, Inhabited

/-- The place after a token; no place if the token does not belong there. -/
def Place.after? : Place → Token → Option Place
  | .operand, .opening => some .operand
  | .operand, .atom _ => some .operator
  | .operator, .between _ => some .operand
  | .operator, .closing => some .operator
  | _, _ => none

/-- The place after some tokens. -/
def scan : Place → List Token → Option Place
  | p, [] => some p
  | p, t :: ts => (p.after? t).bind fun p' => scan p' ts

theorem scan_append (p : Place) (ts us : List Token) :
    scan p (ts ++ us) = (scan p ts).bind fun p' => scan p' us := by
  induction ts generalizing p with
  | nil => rfl
  | cons t ts ih =>
    rw [List.cons_append, scan, scan]
    cases p.after? t with
    | none => rfl
    | some p' => exact ih p'

theorem scan_intercalate {o : Operator} {items : List (List Token)} (hne : items ≠ []) :
    scan .operand ([.between o].intercalate items) = some .operator ↔
      ∀ ts ∈ items, scan .operand ts = some .operator := by
  induction items with
  | nil => exact absurd rfl hne
  | cons ts items ih =>
    cases items with
    | nil => simp
    | cons us items =>
      rw [List.intercalate_cons_cons, List.append_assoc, scan_append, List.forall_mem_cons,
        ← ih (by simp)]
      -- the operator behind the first item asks that an operator comes next there
      cases hts : scan .operand ts with
      | none => simp
      | some p => cases p <;> simp [scan, Place.after?]

theorem scan_enclosed {ts : List Token} :
    scan .operand (.opening :: (ts ++ [.closing])) = some .operator ↔
      scan .operand ts = some .operator := by
  have hopen : scan .operand (.opening :: (ts ++ [.closing]))
      = scan .operand (ts ++ [.closing]) := rfl
  rw [hopen, scan_append]
  cases hts : scan .operand ts with
  | none => simp
  | some p => cases p <;> simp [scan, Place.after?]

/-- Every item passes the scan. -/
theorem Item.scan_eq {ts : List Token} (h : Item ts) : scan .operand ts = some .operator := by
  induction h with
  | atom l => rfl
  | group o h2 h ih => exact scan_enclosed.2 ((scan_intercalate (List.ne_nil_of_length_pos (by omega))).2 ih)

theorem Sentence.scan_eq {ts : List Token} (h : Sentence ts) :
    scan .operand ts = some .operator := by
  cases h with
  | item h => exact h.scan_eq
  | row o h2 h =>
    exact (scan_intercalate (List.ne_nil_of_length_pos (by omega))).2 fun ts hts => (h ts hts).scan_eq

/-! ### Atoms -/

theorem atoms_append (ts us : List Token) : atoms (ts ++ us) = atoms ts ++ atoms us :=
  List.filterMap_append

theorem atoms_enclosed (ts : List Token) :
    atoms (.opening :: (ts ++ [.closing])) = atoms ts := by
  have hopen : atoms (.opening :: (ts ++ [.closing])) = atoms (ts ++ [.closing]) := rfl
  have hclose : atoms [.closing] = [] := rfl
  rw [hopen, atoms_append, hclose, List.append_nil]

theorem atoms_intercalate (o : Operator) (items : List (List Token)) :
    atoms ([.between o].intercalate items) = items.flatMap atoms := by
  induction items with
  | nil => rfl
  | cons ts items ih =>
    cases items with
    | nil => simp
    | cons us items =>
      have hbetween : atoms [.between o] = [] := rfl
      rw [List.intercalate_cons_cons, atoms_append, atoms_append, ih, hbetween, List.append_nil]
      exact List.flatMap_cons.symm

/-- What is not in the clauses present is in none. -/
theorem flatMap_leaves_present (cs : List Query) :
    (present cs).flatMap leaves = cs.flatMap leaves := by
  induction cs with
  | nil => rfl
  | cons c cs ih =>
    rw [present_cons, List.flatMap_cons]
    cases c with
    | empty => exact ih
    | leaf l => rw [isEmpty_leaf, if_neg (by simp), List.flatMap_cons, ih]
    | join o ds g => rw [isEmpty_join, if_neg (by simp), List.flatMap_cons, ih]

theorem atoms_clauseTokens {o : Operator} {cs : List Query}
    (h : ∀ c ∈ cs, atoms c.innerTokens = c.leaves) :
    atoms (clauseTokens o true cs) = cs.flatMap leaves := by
  have hpresent : ∀ c ∈ present cs, atoms c.innerTokens = c.leaves := fun c hc =>
    h c (mem_present.1 hc).1
  rw [clauseTokens_eq, atoms_intercalate, List.flatMap_map, List.flatMap_congr hpresent,
    flatMap_leaves_present]

theorem atoms_innerTokens (q : Query) : atoms q.innerTokens = q.leaves := by
  induction q using clause_induction with
  | empty => rfl
  | leaf l => rfl
  | join o cs g ih =>
    have hrow := atoms_clauseTokens (o := o) ih
    rw [innerTokens, leaves, clauseLeaves_eq]
    cases g with
    | false => exact hrow
    | true =>
      rw [if_pos rfl, atoms_enclosed]
      exact hrow

/-- **The atoms of a query are its leaves**, each once and in their order. -/
theorem atoms_tokens (q : Query) : atoms q.tokens = q.leaves := by
  cases q with
  | empty => rfl
  | leaf l => rfl
  | join o cs g =>
    rw [tokens, leaves, clauseLeaves_eq]
    exact atoms_clauseTokens fun c _ => atoms_innerTokens c

/-! ### Sound queries -/

theorem Built.of_mem_present {o : Operator} {cs : List Query} {g : Bool}
    (h : (join o cs g).Built) {c : Query} (hc : c ∈ present cs) : c.Built :=
  h.of_mem_subqueries (mem_subqueries_join (mem_present.1 hc).1 (mem_subqueries_self c))

/-- A query that is not empty and has no blank join inside. -/
def Sound (q : Query) : Prop := q ≠ .empty ∧ ∀ s ∈ q.subqueries, ¬ s.IsBlank

/-- What holds of the empty query and inside every clause present holds inside
every clause. -/
theorem forall_mem_subqueries_join {P : Query → Prop} (hempty : P .empty) {o : Operator}
    {cs : List Query} {g : Bool} :
    (∀ s ∈ (join o cs g).subqueries, P s) ↔
      P (.join o cs g) ∧ ∀ c ∈ present cs, ∀ s ∈ c.subqueries, P s := by
  rw [subqueries, clauseSubqueries_eq, List.forall_mem_cons]
  refine and_congr_right fun _ => ⟨?_, ?_⟩
  · intro h c hc s hs
    exact h s (List.mem_flatMap.2 ⟨c, (mem_present.1 hc).1, hs⟩)
  · intro h s hs
    obtain ⟨c, hc, hs⟩ := List.mem_flatMap.1 hs
    by_cases hce : c = .empty
    · rw [hce, subqueries, List.mem_singleton] at hs
      exact hs ▸ hempty
    · exact h c (mem_present.2 ⟨hc, hce⟩) s hs

theorem sound_join {o : Operator} {cs : List Query} {g : Bool} :
    Sound (.join o cs g) ↔ present cs ≠ [] ∧ ∀ c ∈ present cs, Sound c := by
  unfold Sound
  rw [forall_mem_subqueries_join (by simp [IsBlank])]
  constructor
  · rintro ⟨-, hblank, h⟩
    exact ⟨hblank, fun c hc => ⟨(mem_present.1 hc).2, h c hc⟩⟩
  · rintro ⟨hblank, h⟩
    exact ⟨by simp, hblank, fun c hc => (h c hc).2⟩

theorem sound_leaf (l : Leaf) : Sound (.leaf l) := by
  refine ⟨by simp, fun s hs => ?_⟩
  rw [subqueries, List.mem_singleton] at hs
  rw [hs]
  exact id

/-- A row of clauses passes the scan if there is one and each of them does. -/
theorem scan_clauseTokens {o : Operator} {cs : List Query} :
    scan .operand (clauseTokens o true cs) = some .operator ↔
      present cs ≠ [] ∧ ∀ c ∈ present cs, scan .operand c.innerTokens = some .operator := by
  rw [clauseTokens_eq]
  by_cases hp : present cs = []
  · simp [hp, scan]
  · rw [scan_intercalate (by simpa using hp), List.forall_mem_map]
    exact (and_iff_right hp).symm

theorem Built.scan_innerTokens {q : Query} (h : q.Built) :
    scan .operand q.innerTokens = some .operator ↔ q.Sound := by
  induction h using Built.shape_induction with
  | empty => simp [innerTokens, scan, Sound]
  | leaf l hl hlead => exact iff_of_true rfl (sound_leaf l)
  | join o cs hj h2 ih =>
    have hclauses : ∀ c ∈ present cs,
        (scan .operand c.innerTokens = some .operator ↔ c.Sound) := by
      intro c hc
      obtain ⟨_, ihc⟩ := ih c (mem_present.1 hc).1
      exact ihc
    -- parentheses around the row make no difference to the scan
    have hrow : scan .operand (innerTokens (.join o cs (1 < (present cs).length)))
        = some .operator ↔ scan .operand (clauseTokens o true cs) = some .operator := by
      rw [innerTokens]
      split
      · exact scan_enclosed
      · rfl
    rw [hrow, scan_clauseTokens, sound_join]
    exact and_congr_right fun _ => forall₂_congr hclauses

/-- **The tokens of a sound query pass the scan**, and no others do. -/
theorem Built.scan_tokens {q : Query} (h : q.Built) :
    scan .operand q.tokens = some .operator ↔ q.Sound := by
  cases q with
  | empty => exact h.scan_innerTokens
  | leaf l => exact h.scan_innerTokens
  | join o cs g =>
    rw [tokens, scan_clauseTokens, sound_join]
    exact and_congr_right fun _ =>
      forall₂_congr fun c hc => (h.of_mem_present hc).scan_innerTokens

/-! ### Sound queries are sentences -/

/-- A join of sound clauses is a row of items; one clause alone is an item. -/
theorem Built.item_innerTokens {q : Query} (h : q.Built) (hs : q.Sound) :
    Item q.innerTokens := by
  induction h using Built.shape_induction with
  | empty => exact absurd rfl hs.1
  | leaf l hl hlead => exact .atom l
  | join o cs hj h2 ih =>
    obtain ⟨hne, hsound⟩ := sound_join.1 hs
    have hitems : ∀ ts ∈ (present cs).map innerTokens, Item ts := by
      rw [List.forall_mem_map]
      intro c hc
      obtain ⟨_, ihc⟩ := ih c (mem_present.1 hc).1
      exact ihc (hsound c hc)
    rw [innerTokens, clauseTokens_eq]
    obtain ⟨c, rest, hp⟩ := List.exists_cons_of_ne_nil hne
    cases rest with
    | nil => simpa [hp] using hitems
    | cons d ds =>
      rw [if_pos (by simp [hp])]
      exact .group o (by simp [hp]) hitems

/-- **The tokens of a sound query are a sentence.** -/
theorem Built.sentence_tokens {q : Query} (h : q.Built) (hs : q.Sound) :
    Sentence q.tokens := by
  cases q with
  | empty => exact absurd rfl hs.1
  | leaf l => exact .item (.atom l)
  | join o cs g =>
    obtain ⟨hne, hsound⟩ := sound_join.1 hs
    have hitems : ∀ ts ∈ (present cs).map innerTokens, Item ts := by
      rw [List.forall_mem_map]
      intro c hc
      exact (h.of_mem_present hc).item_innerTokens (hsound c hc)
    rw [tokens, clauseTokens_eq]
    obtain ⟨c, rest, hp⟩ := List.exists_cons_of_ne_nil hne
    cases rest with
    | nil =>
      rw [hp]
      exact .item (by simpa [hp] using hitems)
    | cons d ds => exact .row o (by simp [hp]) hitems

/-! ### Queries without text -/

/-- A join with two clauses present. -/
def Branches : Query → Prop
  | .join _ cs _ => 2 ≤ (present cs).length
  | _ => False

/-- A query without leaves in which no join has two clauses present. -/
def Silent (q : Query) : Prop := q.leaves = [] ∧ ∀ s ∈ q.subqueries, ¬ s.Branches

theorem silent_join {o : Operator} {cs : List Query} {g : Bool} :
    Silent (.join o cs g) ↔ (present cs).length < 2 ∧ ∀ c ∈ present cs, Silent c := by
  unfold Silent
  rw [forall_mem_subqueries_join id, leaves, clauseLeaves_eq, ← flatMap_leaves_present,
    List.flatMap_eq_nil_iff]
  constructor
  · rintro ⟨hleaves, hbranches, h⟩
    exact ⟨Nat.lt_of_not_le hbranches, fun c hc => ⟨hleaves c hc, h c hc⟩⟩
  · rintro ⟨hlt, h⟩
    exact ⟨fun c hc => (h c hc).1, Nat.not_le_of_lt hlt, fun c hc => (h c hc).2⟩

/-- Clauses leave no token if no operator stands between them and none of them
leaves one. -/
theorem clauseTokens_eq_nil {o : Operator} {cs : List Query} :
    clauseTokens o true cs = [] ↔
      (present cs).length < 2 ∧ ∀ c ∈ present cs, c.innerTokens = [] := by
  rw [clauseTokens_eq]
  match present cs with
  | [] => simp
  | [c] => simp
  | c :: d :: ds =>
    exact iff_of_false (by simp [List.intercalate_cons_cons]) fun h => absurd h.1 (by simp)

theorem Built.innerTokens_eq_nil {q : Query} (h : q.Built) :
    q.innerTokens = [] ↔ q.Silent := by
  induction h using Built.shape_induction with
  | empty => exact iff_of_true rfl ⟨rfl, by simp [subqueries, Branches]⟩
  | leaf l hl hlead => exact iff_of_false (by simp [innerTokens]) (by simp [Silent, leaves])
  | join o cs hj h2 ih =>
    have hclauses : ∀ c ∈ present cs, (c.innerTokens = [] ↔ c.Silent) := by
      intro c hc
      obtain ⟨_, ihc⟩ := ih c (mem_present.1 hc).1
      exact ihc
    rw [innerTokens, silent_join]
    by_cases hmany : 1 < (present cs).length
    · -- the parentheses of a grouped join are there, and so are its two clauses
      simp only [hmany, decide_true, if_true, reduceCtorEq, false_iff, not_and]
      omega
    · simp only [hmany, decide_false, Bool.false_eq_true, if_false]
      rw [clauseTokens_eq_nil]
      exact and_congr_right fun _ => forall₂_congr hclauses

theorem Built.tokens_eq_nil {q : Query} (h : q.Built) : q.tokens = [] ↔ q.Silent := by
  cases q with
  | empty => exact h.innerTokens_eq_nil
  | leaf l => exact h.innerTokens_eq_nil
  | join o cs g =>
    rw [tokens, clauseTokens_eq_nil, silent_join]
    exact and_congr_right fun _ =>
      forall₂_congr fun c hc => (h.of_mem_present hc).innerTokens_eq_nil

/-- Every token has a text: a clause has a colon at least. -/
theorem Token.text_ne_empty (t : Token) : t.text ≠ "" := by
  cases t with
  | opening => decide
  | closing => decide
  | between o => cases o <;> decide
  | atom l => cases hx : l.excluded <;> simp [Token.text, Leaf.render, hx]

theorem textOf_eq_empty {ts : List Token} : textOf ts = "" ↔ ts = [] := by
  cases ts with
  | nil => simp
  | cons t ts => simp [t.text_ne_empty]

theorem textOf_eq_join (ts : List Token) : textOf ts = String.join (ts.map Token.text) := by
  induction ts with
  | nil => rfl
  | cons t ts ih => rw [textOf_cons, ih, List.map_cons, String.join_cons]

/-- **Which queries are well formed, and which have no text.**  The text of a query
is that of its tokens, whose atoms are its leaves in their order.  The tokens are a
sentence exactly if the query is not empty and no join in it has empty clauses
only.  The text is empty exactly if the query has no leaf and no join in it has two
clauses present. -/
theorem Built.sentence_iff_and_render_eq_empty_iff {q : Query} (h : q.Built) :
    q.render = String.join (q.tokens.map Token.text) ∧
    atoms q.tokens = q.leaves ∧
    (Sentence q.tokens ↔ q ≠ .empty ∧ ∀ s ∈ q.subqueries, ¬ s.IsBlank) ∧
    (q.render = "" ↔ q.leaves = [] ∧ ∀ s ∈ q.subqueries, ¬ s.Branches) := by
  refine ⟨textOf_eq_join _, atoms_tokens q, ⟨?_, ?_⟩, ?_⟩
  · intro hsentence
    exact h.scan_tokens.1 hsentence.scan_eq
  · exact h.sentence_tokens
  · exact textOf_eq_empty.trans h.tokens_eq_nil

/-- A country behind a join of nothing, which hides under a join with one clause
present: the operator is left without its first operand. -/
def behindNothing : Query :=
  any [all [.empty, all [.empty, .empty]], (Selector.including "country").is (.text "US")]

theorem built_behindNothing : behindNothing.Built := by
  have hnothing := Built.joined .and (List.forall_mem_cons.2 ⟨.empty,
    List.forall_mem_singleton.2 .empty⟩)
  have hhidden := Built.joined .and (List.forall_mem_cons.2 ⟨.empty,
    List.forall_mem_singleton.2 hnothing⟩)
  have hcountry := Built.completed (.including "country") (.is (.text "US"))
  exact .joined .or (List.forall_mem_cons.2 ⟨hhidden, List.forall_mem_singleton.2 hcountry⟩)

theorem not_sentence_behindNothing :
    behindNothing.Built ∧ behindNothing.render = " OR country:US" ∧
      atoms behindNothing.tokens = [⟨none, "country", "US", false⟩] ∧
      ¬ Sentence behindNothing.tokens ∧ behindNothing.render ≠ "" := by
  obtain ⟨-, hatoms, hsentence, hempty⟩ :=
    built_behindNothing.sentence_iff_and_render_eq_empty_iff
  refine ⟨built_behindNothing, by decide +kernel, hatoms, ?_, ?_⟩
  · rw [hsentence]
    decide
  · rw [Ne, hempty]
    exact fun h => absurd h.1 (by decide)

end Query

end SearchClient
