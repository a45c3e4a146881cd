import Mathlib.Data.List.Basic
import Mathlib.Data.List.Induction
import Mathlib.Data.Nat.Notation
import SearchClient.Url.Basic

/-!
# Paths below a URL

A path is appended with one slash, whatever slashes stood on the two sides of the
junction.  All that appending does is said by one equation, on a text that is cut in
front of the slashes at its end and a path that is cut behind those at its start, and every
text can be cut so.

A path that is nothing but slashes leaves a slash at the end of the URL, which the next
path takes away again.  So paths may be joined first and appended then, in any grouping.

## Main definitions

* `slashes` — a run of slashes.
* `StartsClear`, `EndsClear` — texts without a slash at their start, and at their end.

## Main results

* `exists_endsClear`, `exists_startsClear` — the cuts of a text.
* `Url.appendPath_eq` — **what appending a path does.**
* `Url.appendPath_appendPath`, `Url.foldl_appendPath` — one path below the other.
* `Url.appendPath_join` — **paths are joined by one slash, in any grouping.**
-/

namespace SearchClient

/-! ### Slashes -/

/-- A run of slashes. -/
def slashes (n : ℕ) : String := String.ofList (List.replicate n '/')

/-- The text does not start with a slash. -/
def StartsClear (s : String) : Prop := s.toList.head? ≠ some '/'

/-- The text does not end with a slash. -/
def EndsClear (s : String) : Prop := s.toList.getLast? ≠ some '/'

instance (s : String) : Decidable (StartsClear s) := inferInstanceAs (Decidable (_ ≠ _))

instance (s : String) : Decidable (EndsClear s) := inferInstanceAs (Decidable (_ ≠ _))

@[simp] theorem toList_slashes (n : ℕ) : (slashes n).toList = List.replicate n '/' :=
  String.toList_ofList

@[simp] theorem slashes_zero : slashes 0 = "" := rfl

@[simp] theorem slashes_one : slashes 1 = "/" := rfl

theorem slashes_add (m n : ℕ) : slashes (m + n) = slashes m ++ slashes n := by
  rw [slashes, List.replicate_add, String.ofList_append]
  rfl

theorem slashes_injective : Function.Injective slashes := by
  intro m n h
  have hlength := congrArg (List.length ∘ String.toList) h
  simpa using hlength

theorem endsClear_empty : EndsClear "" := by decide

/-- What stands first decides whether a text starts with a slash. -/
theorem startsClear_append {s : String} (hne : s ≠ "") (t : String) :
    StartsClear (s ++ t) ↔ StartsClear s := by
  have hlist : s.toList ≠ [] := by simpa using hne
  rw [StartsClear, StartsClear, String.toList_append, List.head?_append_of_ne_nil _ hlist]

/-- What stands last decides whether a text ends with a slash. -/
theorem endsClear_append (s : String) {t : String} (hne : t ≠ "") :
    EndsClear (s ++ t) ↔ EndsClear t := by
  have hlist : t.toList ≠ [] := by simpa using hne
  rw [EndsClear, EndsClear, String.toList_append, List.getLast?_append_of_ne_nil _ hlist]

/-- Behind a text that does not end with a slash every slash is seen. -/
theorem endsClear_append_slashes {x : String} (hx : EndsClear x) {n : ℕ} :
    EndsClear (x ++ slashes n) ↔ n = 0 := by
  cases n with
  | zero => simpa using hx
  | succ n =>
    refine iff_of_false ?_ (Nat.succ_ne_zero n)
    simp [EndsClear, List.getLast?_append, List.getLast?_replicate]

/-- In front of a text that does not start with a slash every slash is seen. -/
theorem slashes_prefix_iff {y : String} (hy : StartsClear y) {m n : ℕ} :
    (slashes m).toList <+: (slashes n ++ y).toList ↔ m ≤ n := by
  rw [String.toList_append, toList_slashes, toList_slashes]
  induction m generalizing n with
  | zero => simp
  | succ m ih =>
    cases n with
    | zero =>
      refine iff_of_false ?_ (by omega)
      rintro ⟨t, ht⟩
      rw [List.replicate_zero, List.nil_append] at ht
      exact hy (by rw [← ht]; rfl)
    | succ n =>
      rw [List.replicate_succ, List.replicate_succ, List.cons_append, List.cons_prefix_cons, ih]
      simp

/-! ### Cutting texts at their slashes -/

/-- **Every text is cut behind the slashes at its start.** -/
theorem exists_startsClear (s : String) : ∃ n y, s = slashes n ++ y ∧ StartsClear y := by
  obtain ⟨cs, rfl⟩ : ∃ cs, s = String.ofList cs := ⟨s.toList, String.ofList_toList.symm⟩
  induction cs with
  | nil => exact ⟨0, "", rfl, by decide⟩
  | cons c cs ih =>
    by_cases hc : c = '/'
    · obtain ⟨n, y, hcs, hy⟩ := ih
      refine ⟨1 + n, y, ?_, hy⟩
      rw [slashes_add, String.append_assoc, ← hcs, hc, ← List.singleton_append,
        String.ofList_append]
      rfl
    · refine ⟨0, String.ofList (c :: cs), by simp, ?_⟩
      simpa [StartsClear] using hc

/-- **Every text is cut in front of the slashes at its end.** -/
theorem exists_endsClear (s : String) : ∃ x n, s = x ++ slashes n ∧ EndsClear x := by
  obtain ⟨cs, rfl⟩ : ∃ cs, s = String.ofList cs := ⟨s.toList, String.ofList_toList.symm⟩
  induction cs using List.reverseRecOn with
  | nil => exact ⟨"", 0, rfl, endsClear_empty⟩
  | append_singleton cs c ih =>
    by_cases hc : c = '/'
    · obtain ⟨x, n, hcs, hx⟩ := ih
      refine ⟨x, n + 1, ?_, hx⟩
      rw [slashes_add, ← String.append_assoc, ← hcs, hc, String.ofList_append]
      rfl
    · refine ⟨String.ofList (cs ++ [c]), 0, by simp, ?_⟩
      simpa [EndsClear] using hc

theorem dropWhile_replicate_append {cs : List Char} (h : cs.head? ≠ some '/') (n : ℕ) :
    (List.replicate n '/' ++ cs).dropWhile (· == '/') = cs := by
  rw [List.dropWhile_append_of_pos fun c hc => by simp [List.eq_of_mem_replicate hc]]
  cases cs with
  | nil => rfl
  | cons c cs => exact List.dropWhile_cons_of_neg (by simpa using h)

/-- The slashes in front of a text are taken away. -/
theorem dropLeadingSlashes_slashes {y : String} (hy : StartsClear y) (n : ℕ) :
    dropLeadingSlashes (slashes n ++ y) = y.toList := by
  rw [dropLeadingSlashes, String.toList_append, toList_slashes, dropWhile_replicate_append hy]

/-- The slashes behind a text are taken away. -/
theorem dropTrailingSlashes_slashes {x : String} (hx : EndsClear x) (n : ℕ) :
    dropTrailingSlashes (x ++ slashes n) = x.toList := by
  have hreverse : x.toList.reverse.head? ≠ some '/' := by rwa [List.head?_reverse]
  rw [dropTrailingSlashes, Text.dropEndWhile, String.toList_append, toList_slashes,
    List.reverse_append, List.reverse_replicate, dropWhile_replicate_append hreverse,
    List.reverse_reverse]

namespace Url

/-! ### One path -/

/-- **What appending a path does**: the slashes at the junction become one. -/
theorem appendPath_eq {u : Url} {a x y : String} {m n : ℕ} (hu : u.text = x ++ slashes m)
    (hx : EndsClear x) (ha : a = slashes n ++ y) (hy : StartsClear y) :
    u.appendPath a = ⟨x ++ "/" ++ y⟩ := by
  rw [appendPath, hu, ha, dropTrailingSlashes_slashes hx, dropLeadingSlashes_slashes hy,
    ← List.singleton_append, String.ofList_append, String.ofList_append, String.ofList_toList,
    String.ofList_toList, String.append_assoc]

/-- Slashes at the end of a URL and at the start of a path make no difference. -/
theorem appendPath_slashes (u : Url) (a : String) (m n : ℕ) :
    appendPath ⟨u.text ++ slashes m⟩ (slashes n ++ a) = u.appendPath a := by
  obtain ⟨x, j, hu, hx⟩ := exists_endsClear u.text
  obtain ⟨k, y, ha, hy⟩ := exists_startsClear a
  have hu' : u.text ++ slashes m = x ++ slashes (j + m) := by
    rw [hu, String.append_assoc, ← slashes_add]
  have ha' : slashes n ++ a = slashes (n + k) ++ y := by
    rw [ha, ← String.append_assoc, ← slashes_add]
  rw [appendPath_eq hu' hx ha' hy, appendPath_eq hu hx ha hy]

/-! ### Paths below paths -/

/-- **A path below a path** may as well be joined to it first. -/
theorem appendPath_appendPath (u : Url) (a b : String) :
    (u.appendPath a).appendPath b = u.appendPath (appendPath ⟨a⟩ b).text := by
  obtain ⟨x, j, hu, hx⟩ := exists_endsClear u.text
  obtain ⟨k, y, ha, hy⟩ := exists_startsClear a
  obtain ⟨w, i, rfl, hw⟩ := exists_endsClear y
  obtain ⟨l, z, hb, hz⟩ := exists_startsClear b
  have hua : u.appendPath a = ⟨x ++ "/" ++ (w ++ slashes i)⟩ := appendPath_eq hu hx ha hy
  rcases eq_or_ne w "" with rfl | hne
  · -- a path of slashes leaves a slash, which the next path takes away
    have hleft : (u.appendPath a).appendPath b = ⟨x ++ "/" ++ z⟩ := by
      refine appendPath_eq (m := 1 + i) ?_ hx hb hz
      rw [hua, slashes_add, slashes_one, String.empty_append, String.append_assoc]
    have hab : appendPath ⟨a⟩ b = ⟨"" ++ "/" ++ z⟩ := by
      refine appendPath_eq (m := k + i) ?_ endsClear_empty hb hz
      rw [ha, slashes_add, String.empty_append, String.empty_append]
    rw [hleft, hab]
    exact (appendPath_eq (n := 1) hu hx rfl hz).symm
  · -- any other path stays between two slashes
    have hleft : (u.appendPath a).appendPath b = ⟨x ++ "/" ++ w ++ "/" ++ z⟩ := by
      refine appendPath_eq (m := i) ?_ ((endsClear_append _ hne).2 hw) hb hz
      rw [hua, String.append_assoc, String.append_assoc, String.append_assoc]
    have hab : appendPath ⟨a⟩ b = ⟨slashes k ++ w ++ "/" ++ z⟩ := by
      refine appendPath_eq (m := i) ?_ ((endsClear_append _ hne).2 hw) hb hz
      rw [ha, String.append_assoc]
    have hstart : StartsClear (w ++ ("/" ++ z)) :=
      (startsClear_append hne _).2 ((startsClear_append hne _).1 hy)
    rw [hleft, hab, appendPath_eq (n := k) hu hx (by simp only [String.append_assoc]) hstart]
    simp only [String.append_assoc]

/-- Any number of paths, one below the other, may as well be joined first. -/
theorem foldl_appendPath (u : Url) (p : String) (ps : List String) :
    (p :: ps).foldl appendPath u = u.appendPath (ps.foldl appendPath ⟨p⟩).text := by
  induction ps generalizing p with
  | nil => rfl
  | cons q ps ih =>
    rw [List.foldl_cons, List.foldl_cons, appendPath_appendPath]
    exact ih (appendPath ⟨p⟩ q).text

/-- **Paths are joined by one slash, in any grouping.**  A path is put behind the URL
without the slashes at its end, one slash between them, and without the slashes at its
own start.  So it makes no difference how many slashes there are, and whether a path is
appended to a URL below another path or to that path first. -/
theorem appendPath_join (u : Url) (a b : String) :
    (∃ (x y : String) (m n : ℕ), u.text = x ++ slashes m ∧ EndsClear x ∧
        a = slashes n ++ y ∧ StartsClear y ∧ u.appendPath a = ⟨x ++ "/" ++ y⟩) ∧
      (∀ m n, appendPath ⟨u.text ++ slashes m⟩ (slashes n ++ a) = u.appendPath a) ∧
      (u.appendPath a).appendPath b = u.appendPath (appendPath ⟨a⟩ b).text := by
  refine ⟨?_, appendPath_slashes u a, appendPath_appendPath u a b⟩
  obtain ⟨x, m, hu, hx⟩ := exists_endsClear u.text
  obtain ⟨n, y, ha, hy⟩ := exists_startsClear a
  exact ⟨x, y, m, n, hu, hx, ha, hy, appendPath_eq hu hx ha hy⟩

example : (appendPath ⟨"http://h//"⟩ "///").appendPath "/a/" = ⟨"http://h/a/"⟩ := by
  decide +kernel

end Url

end SearchClient
