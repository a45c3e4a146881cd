import SearchClient.Proofs.Text.Nesting
import SearchClient.Query.Basic

/-!
# Outlines read off a text

The text of a query can be read back, up to the clauses, which stay texts.  The
operators among the outer words of a text tell what it is: with one operator it
is a join, and the text is cut at each of its occurrences; with none it is a
clause, unless it is a join in parentheses; with two it is nothing, since it does
not say which of them binds first.

## Main definitions

* `Outline` — clauses and joins as they are seen in a text.
* `outerOperators`, `segments` — the operators in a text and what they separate.
* `Outline.readChars` — the outline of a text.

## Main results

* `Outline.readChars_join`, `Outline.readChars_enclosed`, `Outline.readChars_clause` —
  the three ways to read a text.
-/

namespace SearchClient

open Text

/-- What is seen of a query in its text. -/
inductive Outline
  /-- One clause, with its text. -/
  | clause (text : String)
  /-- Parts with one operator between them. -/
  | join (operator : Operator) (parts : List Outline)
  deriving Repr, Inhabited

/-! ### Operators in a text -/

/-- The word of an operator. -/
def Operator.word : Operator → List Char
  | .and => ['A', 'N', 'D']
  | .or => ['O', 'R']

theorem Operator.toList_token (o : Operator) : o.token.toList = ' ' :: o.word ++ [' '] := by
  cases o <;> decide

@[simp] theorem Operator.outerWords_word (o : Operator) : outerWords 0 o.word = [o.word] := by
  cases o <;> decide

@[simp] theorem Operator.balanced_word (o : Operator) : balanced 0 o.word = true := by
  cases o <;> decide

theorem Operator.word_injective : Function.Injective Operator.word := by
  intro o p h
  cases o <;> cases p <;> first | rfl | exact absurd h (by decide)

/-- The operators that occur among the outer words of a text. -/
def outerOperators (cs : List Char) : List Operator :=
  [Operator.and, .or].filter fun o => o.word ∈ outerWords 0 cs

theorem mem_outerOperators {o : Operator} {cs : List Char} :
    o ∈ outerOperators cs ↔ o.word ∈ outerWords 0 cs := by
  cases o <;> simp [outerOperators]

/-- No operator is found exactly when no outer word is one. -/
theorem outerOperators_eq_nil {cs : List Char} :
    outerOperators cs = [] ↔ ∀ o : Operator, o.word ∉ outerWords 0 cs := by
  simp only [List.eq_nil_iff_forall_not_mem, mem_outerOperators]

/-- One operator is found exactly when it occurs and the other one does not. -/
theorem outerOperators_eq_singleton {o : Operator} {cs : List Char} :
    outerOperators cs = [o] ↔ ∀ p : Operator, p.word ∈ outerWords 0 cs ↔ p = o := by
  constructor
  · intro h p
    rw [← mem_outerOperators, h, List.mem_singleton]
  · intro h
    have hand := h .and
    have hor := h .or
    cases o <;> simp_all [outerOperators]

/-- The segments of a text between the occurrences of an operator. -/
def segments (o : Operator) (cs : List Char) : List (List Char) :=
  ((outerWords 0 cs).splitOn o.word).map [' '].intercalate

/-! ### Reading -/

/-- The inside of a text that one matching pair of parentheses encloses. -/
def inside? : List Char → Option (List Char)
  | [] => none
  | c :: cs =>
    if c = '(' ∧ cs.getLast? = some ')' ∧ balanced 0 cs.dropLast then some cs.dropLast else none

theorem inside?_enclosed {cs : List Char} (h : balanced 0 cs = true) :
    inside? ('(' :: (cs ++ [')'])) = some cs := by
  simp [inside?, h]

theorem inside?_of_ne {c : Char} (hc : c ≠ '(') (cs : List Char) : inside? (c :: cs) = none := by
  simp [inside?, hc]

theorem length_lt_of_inside? {cs ds : List Char} (h : inside? cs = some ds) :
    ds.length < cs.length := by
  cases cs with
  | nil => simp [inside?] at h
  | cons c cs =>
    simp only [inside?, Option.ite_none_right_eq_some, Option.some.injEq] at h
    rw [← h.2, List.length_dropLast, List.length_cons]
    omega

/-- The length of words with a space behind each. -/
def spacedLength : List (List Char) → ℕ
  | [] => 0
  | w :: ws => w.length + 1 + spacedLength ws

theorem length_intercalate_space (ws : List (List Char)) :
    ([' '].intercalate ws).length = spacedLength ws - 1 := by
  induction ws with
  | nil => rfl
  | cons w ws ih =>
    cases ws with
    | nil => simp [spacedLength]
    | cons v vs =>
      have hpos : 0 < spacedLength (v :: vs) := by
        rw [spacedLength]
        omega
      rw [List.intercalate_cons_cons, List.length_append, List.length_append, ih,
        List.length_singleton]
      have hsum : spacedLength (w :: v :: vs) = w.length + 1 + spacedLength (v :: vs) := by
        simp [spacedLength]
      omega

/-- A segment leaves out every occurrence of the word that is cut at. -/
theorem spacedLength_le_of_mem_splitOn {w : List Char} :
    ∀ {ws : List (List Char)} {seg : List (List Char)}, seg ∈ ws.splitOn w →
      spacedLength seg + (if w ∈ ws then w.length + 1 else 0) ≤ spacedLength ws := by
  intro ws
  induction ws with
  | nil => intro seg h; simp_all [spacedLength]
  | cons v ws ih =>
    intro seg h
    have hsum : spacedLength (v :: ws) = v.length + 1 + spacedLength ws := by simp [spacedLength]
    rw [List.splitOn_cons_eq_if_modifyHead] at h
    by_cases hv : v = w
    · -- the text is cut at the first word, which no segment has
      subst hv
      simp only [BEq.rfl, if_true, List.mem_cons, true_or] at h ⊢
      rcases h with rfl | h
      · simp [spacedLength]
      · have := ih h
        omega
    · -- the first word goes to the first segment
      have hmem : w ∈ v :: ws ↔ w ∈ ws := by simp [Ne.symm hv]
      simp only [hmem, hsum]
      rw [if_neg (by simpa using hv)] at h
      cases hsp : ws.splitOn w with
      | nil => exact absurd hsp (List.splitOn_ne_nil w ws)
      | cons u us =>
        rw [hsp, List.modifyHead_cons, List.mem_cons] at h
        rcases h with rfl | h
        · have := ih (hsp ▸ List.mem_cons_self : u ∈ ws.splitOn w)
          have hu : spacedLength (v :: u) = v.length + 1 + spacedLength u := by
            simp [spacedLength]
          omega
        · have := ih (hsp ▸ List.mem_cons_of_mem u h : seg ∈ ws.splitOn w)
          omega

/-- A segment of a text in which the operator occurs is shorter than the text. -/
theorem length_lt_of_mem_segments {o : Operator} {cs s : List Char}
    (ho : o.word ∈ outerWords 0 cs) (hs : s ∈ segments o cs) : s.length < cs.length := by
  obtain ⟨seg, hseg, rfl⟩ := List.mem_map.1 hs
  have hle := spacedLength_le_of_mem_splitOn hseg
  rw [if_pos ho] at hle
  have hlen : cs.length = spacedLength (outerWords 0 cs) - 1 := by
    rw [← length_intercalate_space, intercalate_outerWords]
  have hword : 0 < o.word.length := by cases o <;> decide
  rw [length_intercalate_space]
  omega

namespace Outline

/-- The outline of a text, if it has one. -/
def readChars (cs : List Char) : Option Outline :=
  match _ho : outerOperators cs with
  | [] =>
    match _hi : inside? cs with
    | some body =>
      if outerOperators body = [] then some (.clause (.ofList cs)) else readChars body
    | none => some (.clause (.ofList cs))
  | [o] => ((segments o cs).attach.mapM fun s => readChars s.1).map (.join o)
  | _ => none
termination_by cs.length
decreasing_by
  · exact length_lt_of_inside? _hi
  · exact length_lt_of_mem_segments (mem_outerOperators.1 (by simp [_ho])) s.2

/-- The outline of a text, if it has one. -/
def read? (text : String) : Option Outline := readChars text.toList

/-- **A text with one operator is a join of what the operator separates.** -/
theorem readChars_join {o : Operator} {cs : List Char} (h : outerOperators cs = [o]) :
    readChars cs = ((segments o cs).mapM readChars).map (.join o) := by
  rw [readChars]
  split
  · next h' => rw [h] at h'; simp at h'
  · next p h' =>
    rw [h] at h'
    obtain rfl : o = p := by simpa using h'
    rw [List.mapM_subtype (g := readChars) fun _ _ => rfl, List.unattach_attach]
  · next h' => exact absurd h (h' o)

/-- **A join in parentheses is read as the join.** -/
theorem readChars_enclosed {cs body : List Char} (h : outerOperators cs = [])
    (hi : inside? cs = some body) (hb : outerOperators body ≠ []) :
    readChars cs = readChars body := by
  rw [readChars]
  split
  · split
    · next body' hi' =>
      rw [hi] at hi'
      obtain rfl : body = body' := by simpa using hi'
      rw [if_neg hb]
    · next hi' => rw [hi] at hi'; simp at hi'
  · next h' => rw [h] at h'; simp at h'
  · next h' _ => exact absurd h h'

/-- **Any other text without an operator is a clause.** -/
theorem readChars_clause {cs : List Char} (h : outerOperators cs = [])
    (hi : ∀ body, inside? cs = some body → outerOperators body = []) :
    readChars cs = some (.clause (.ofList cs)) := by
  rw [readChars]
  split
  · split
    · next body hi' => rw [if_pos (hi body hi')]
    · rfl
  · next h' => rw [h] at h'; simp at h'
  · next h' _ => exact absurd h h'

end Outline

end SearchClient
