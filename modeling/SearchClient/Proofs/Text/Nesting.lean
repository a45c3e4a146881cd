import Mathlib.Data.List.Basic

/-!
# Nested parentheses and outer words

A text is balanced when each of its parentheses has a partner.  Its outer words
are the pieces between those spaces that lie outside all parentheses, so that a
space inside parentheses does not end a word.

## Main definitions

* `nest d c` — how many parentheses are open after the character `c` when `d` are
  open before it.
* `balanced d cs` — `cs` closes exactly `d` parentheses that are open before it,
  and every parenthesis that it opens itself.
* `outerWords d cs` — the outer words of `cs` behind `d` open parentheses.

## Main results

* `outerWords_append_space` — the words of two texts with a space between them.
* `outerWords_enclosed` — a text in parentheses is a single word.
-/

namespace SearchClient.Text

/-! ### Depth -/

/-- The number of open parentheses after a character, from that before it; there
is none after a parenthesis that closes nothing. -/
def nest (depth : ℕ) (c : Char) : Option ℕ :=
  if c = '(' then some (depth + 1)
  else if c = ')' then if depth = 0 then none else some (depth - 1)
  else some depth

/-- `balanced d cs` says that `cs` closes `d` parentheses that are open before it
and all those that it opens, and no others. -/
def balanced : ℕ → List Char → Bool
  | d, [] => d == 0
  | d, c :: cs => (nest d c).elim false fun d' => balanced d' cs

@[simp] theorem balanced_nil (d : ℕ) : balanced d [] = (d == 0) := rfl

theorem balanced_cons (d : ℕ) (c : Char) (cs : List Char) :
    balanced d (c :: cs) = (nest d c).elim false fun d' => balanced d' cs := rfl

/-- Parentheses that stay open around a character do not change what it does. -/
theorem nest_add {d d' : ℕ} {c : Char} (k : ℕ) (h : nest d c = some d') :
    nest (d + k) c = some (d' + k) := by
  unfold nest at h ⊢
  split_ifs at h ⊢ <;> simp_all <;> omega

/-- The first character of a balanced text leaves a balanced text. -/
theorem exists_nest_of_balanced {d : ℕ} {c : Char} {cs : List Char}
    (h : balanced d (c :: cs) = true) : ∃ d', nest d c = some d' ∧ balanced d' cs = true := by
  rw [balanced_cons] at h
  cases hn : nest d c with
  | none => rw [hn] at h; simp at h
  | some d' => rw [hn] at h; exact ⟨d', rfl, h⟩

/-- Balanced texts after each other close what either of them closes. -/
theorem balanced_append {d e : ℕ} {s t : List Char} (hs : balanced d s = true)
    (ht : balanced e t = true) : balanced (d + e) (s ++ t) = true := by
  induction s generalizing d with
  | nil =>
    rw [balanced_nil, beq_iff_eq] at hs
    subst hs
    simpa using ht
  | cons c s ih =>
    obtain ⟨d', hn, hs⟩ := exists_nest_of_balanced hs
    rw [List.cons_append, balanced_cons, nest_add e hn]
    exact ih hs

/-- A balanced text in parentheses is balanced. -/
theorem balanced_enclosed {s : List Char} (h : balanced 0 s = true) :
    balanced 0 ('(' :: (s ++ [')'])) = true :=
  balanced_append (d := 0) (e := 1) h rfl

/-! ### Words -/

/-- The outer words of a text that stands behind `depth` open parentheses. -/
def outerWords : ℕ → List Char → List (List Char)
  | _, [] => [[]]
  | d, c :: cs =>
    if d = 0 ∧ c = ' ' then [] :: outerWords 0 cs
    else (outerWords ((nest d c).getD 0) cs).modifyHead (c :: ·)

@[simp] theorem outerWords_nil (d : ℕ) : outerWords d [] = [[]] := rfl

@[simp] theorem outerWords_space (cs : List Char) :
    outerWords 0 (' ' :: cs) = [] :: outerWords 0 cs := rfl

theorem outerWords_cons {d d' : ℕ} {c : Char} (hc : ¬ (d = 0 ∧ c = ' ')) (hn : nest d c = some d')
    (cs : List Char) : outerWords d (c :: cs) = (outerWords d' cs).modifyHead (c :: ·) := by
  rw [outerWords, if_neg hc, hn, Option.getD_some]

theorem outerWords_ne_nil (d : ℕ) (cs : List Char) : outerWords d cs ≠ [] := by
  cases cs with
  | nil => simp
  | cons c cs =>
    have ih := outerWords_ne_nil ((nest d c).getD 0) cs
    rw [outerWords]
    split
    · simp
    · simpa using ih

theorem modifyHead_append {α : Type*} {f : α → α} {l : List α} (h : l ≠ []) (m : List α) :
    (l ++ m).modifyHead f = l.modifyHead f ++ m := by
  cases l with
  | nil => exact absurd rfl h
  | cons a l => rfl

/-- The words with spaces between them are the text again. -/
theorem intercalate_outerWords (d : ℕ) (cs : List Char) :
    [' '].intercalate (outerWords d cs) = cs := by
  induction cs generalizing d with
  | nil => rfl
  | cons c cs ih =>
    rw [outerWords]
    split
    · next h => rw [List.intercalate_cons_of_ne_nil (outerWords_ne_nil 0 cs), ih, h.2]; rfl
    · have ih := ih ((nest d c).getD 0)
      cases hw : outerWords ((nest d c).getD 0) cs with
      | nil => exact absurd hw (outerWords_ne_nil _ _)
      | cons w ws =>
        rw [hw] at ih
        rw [List.modifyHead_cons, List.intercalate_cons_cons_left, ih]

/-- **The outer words of two texts with a space between them** are those of the
one and those of the other, if the first one is balanced. -/
theorem outerWords_append_space {d : ℕ} {s : List Char} (hs : balanced d s = true)
    (t : List Char) : outerWords d (s ++ ' ' :: t) = outerWords d s ++ outerWords 0 t := by
  induction s generalizing d with
  | nil =>
    rw [balanced_nil, beq_iff_eq] at hs
    subst hs
    rfl
  | cons c s ih =>
    obtain ⟨d', hn, hs⟩ := exists_nest_of_balanced hs
    rw [List.cons_append]
    by_cases hc : d = 0 ∧ c = ' '
    · obtain ⟨rfl, rfl⟩ := hc
      obtain rfl : d' = 0 := by simpa [nest] using hn.symm
      rw [outerWords_space, outerWords_space, ih hs, List.cons_append]
    · rw [outerWords_cons hc hn, outerWords_cons hc hn, ih hs,
        modifyHead_append (outerWords_ne_nil d' s)]

/-- A balanced text inside parentheses belongs to the word it stands in. -/
theorem outerWords_inside {k : ℕ} {s : List Char} (hs : balanced k s = true) (d : ℕ)
    (t : List Char) :
    outerWords (k + (d + 1)) (s ++ t) = (outerWords (d + 1) t).modifyHead (s ++ ·) := by
  induction s generalizing k with
  | nil =>
    rw [balanced_nil, beq_iff_eq] at hs
    subst hs
    rw [Nat.zero_add, List.nil_append]
    cases outerWords (d + 1) t <;> rfl
  | cons c s ih =>
    obtain ⟨k', hn, hs⟩ := exists_nest_of_balanced hs
    -- behind an open parenthesis a space ends no word
    have hc : ¬ (k + (d + 1) = 0 ∧ c = ' ') := by omega
    rw [List.cons_append, outerWords_cons hc (nest_add (d + 1) hn), ih hs, List.modifyHead_modifyHead]
    rfl

/-- **A balanced text in parentheses is a single outer word.** -/
theorem outerWords_enclosed {s : List Char} (hs : balanced 0 s = true) :
    outerWords 0 ('(' :: (s ++ [')'])) = ['(' :: (s ++ [')'])] := by
  have hin := outerWords_inside hs 0 [')']
  rw [Nat.zero_add] at hin
  rw [outerWords_cons (by decide) (rfl : nest 0 '(' = some 1), hin]
  rfl

/-- The outer words of texts that stand with a spaced word between any two. -/
theorem outerWords_intercalate {w : List Char} (hw : outerWords 0 w = [w])
    (hb : balanced 0 w = true) {ts : List (List Char)} (hne : ts ≠ [])
    (hts : ∀ t ∈ ts, balanced 0 t = true) :
    outerWords 0 ((' ' :: w ++ [' ']).intercalate ts)
      = [w].intercalate (ts.map (outerWords 0)) := by
  induction ts with
  | nil => exact absurd rfl hne
  | cons t ts ih =>
    have ht := hts t List.mem_cons_self
    cases ts with
    | nil => simp
    | cons u us =>
      have ih := ih (by simp) fun x hx => hts x (List.mem_cons_of_mem _ hx)
      rw [List.intercalate_cons_cons, List.map_cons, List.map_cons, List.intercalate_cons_cons,
        ← List.map_cons, ← ih]
      simp only [List.cons_append, List.append_assoc, List.nil_append]
      rw [outerWords_append_space ht, outerWords_append_space hb, hw, List.singleton_append]

/-- Balanced texts with a balanced one between any two are balanced together. -/
theorem balanced_intercalate {w : List Char} (hw : balanced 0 w = true) {ts : List (List Char)}
    (hts : ∀ t ∈ ts, balanced 0 t = true) : balanced 0 (w.intercalate ts) = true := by
  induction ts with
  | nil => rfl
  | cons t ts ih =>
    have ht := hts t List.mem_cons_self
    cases ts with
    | nil => simpa using ht
    | cons u us =>
      have ih := ih fun x hx => hts x (List.mem_cons_of_mem _ hx)
      rw [List.intercalate_cons_cons]
      exact balanced_append (balanced_append ht hw) ih

end SearchClient.Text
