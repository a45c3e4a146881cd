import Mathlib.Data.List.Basic

/-!
# Texts cut at a mark

Where a mark cannot occur in what stands before it, or cannot occur in what follows it, a text
is cut at the mark in one way only.

## Main results

* `append_cons_inj_of_first`, `append_cons_inj_of_last` — **a text is cut in one way only** at
  the first mark, and at the last one.
-/

namespace SearchClient

/-- A text is cut in one way only at the first mark. -/
theorem append_cons_inj_of_first {c : Char} {as bs : List Char} (ha : c ∉ as) (hb : c ∉ bs)
    {xs ys : List Char} : as ++ c :: xs = bs ++ c :: ys ↔ as = bs ∧ xs = ys := by
  induction as generalizing bs with
  | nil =>
    cases bs with
    | nil => simp
    | cons b bs =>
      have hne : c ≠ b := List.ne_of_not_mem_cons hb
      simp [hne]
  | cons a as ih =>
    have hne : c ≠ a := List.ne_of_not_mem_cons ha
    cases bs with
    | nil => simp [hne.symm]
    | cons b bs =>
      rw [List.cons_append, List.cons_append, List.cons.injEq, List.cons.injEq, and_assoc,
        ih (List.not_mem_of_not_mem_cons ha) (List.not_mem_of_not_mem_cons hb)]

/-- A text is cut in one way only at the last mark. -/
theorem append_cons_inj_of_last {c : Char} {xs ys : List Char} (hx : c ∉ xs) (hy : c ∉ ys)
    {as bs : List Char} : as ++ c :: xs = bs ++ c :: ys ↔ as = bs ∧ xs = ys := by
  -- read backwards it is the first one
  calc as ++ c :: xs = bs ++ c :: ys
      ↔ xs.reverse ++ c :: as.reverse = ys.reverse ++ c :: bs.reverse := by
        rw [← List.reverse_inj]
        simp
    _ ↔ xs.reverse = ys.reverse ∧ as.reverse = bs.reverse :=
        append_cons_inj_of_first (List.mem_reverse.not.2 hx) (List.mem_reverse.not.2 hy)
    _ ↔ as = bs ∧ xs = ys := by
        rw [List.reverse_inj, List.reverse_inj, and_comm]

end SearchClient
