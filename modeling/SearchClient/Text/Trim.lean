/-!
# Trimming the end of a text

## Main definitions

* `dropEndWhile` — a text without what a test holds for at its end.
-/

namespace SearchClient.Text

/-- The text without the characters at its end for which `p` holds. -/
def dropEndWhile (p : Char → Bool) (cs : List Char) : List Char := (cs.reverse.dropWhile p).reverse

@[simp] theorem dropEndWhile_nil (p : Char → Bool) : dropEndWhile p [] = [] := rfl

/-- Only the last character decides whether anything is dropped. -/
theorem dropEndWhile_concat (p : Char → Bool) (cs : List Char) (c : Char) :
    dropEndWhile p (cs ++ [c]) = if p c then dropEndWhile p cs else cs ++ [c] := by
  by_cases h : p c <;> simp [dropEndWhile, h]

/-- Behind a text that keeps its end only the rest is trimmed. -/
theorem dropEndWhile_append {p : Char → Bool} {cs : List Char} (h : dropEndWhile p cs = cs)
    (ds : List Char) : dropEndWhile p (cs ++ ds) = cs ++ dropEndWhile p ds := by
  unfold dropEndWhile at *
  rw [List.reverse_append, List.dropWhile_append]
  split
  · next hnil =>
    rw [List.isEmpty_iff] at hnil
    rw [h, hnil, List.reverse_nil, List.append_nil]
  · rw [List.reverse_append, List.reverse_reverse]

/-- Trimming takes away only what the test holds for. -/
theorem mem_dropWhile {p : Char → Bool} {c : Char} (hc : p c = false) {cs : List Char} :
    c ∈ cs.dropWhile p ↔ c ∈ cs := by
  induction cs with
  | nil => exact Iff.rfl
  | cons d cs ih =>
    rw [List.dropWhile_cons]
    split
    · next hd =>
      have hne : c ≠ d := fun h => by rw [← h, hc] at hd; cases hd
      rw [ih, List.mem_cons, or_iff_right hne]
    · rfl

theorem mem_dropEndWhile {p : Char → Bool} {c : Char} (hc : p c = false) {cs : List Char} :
    c ∈ dropEndWhile p cs ↔ c ∈ cs := by
  rw [dropEndWhile, List.mem_reverse, mem_dropWhile hc, List.mem_reverse]

end SearchClient.Text
