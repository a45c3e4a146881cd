import SearchClient.Proofs.Url.Paths

/-!
# URLs put together piece by piece

Every step of building puts a text behind the URL, and that text does not depend on the
steps before.  So a URL is the texts of its steps, one after the other.

A path may be added as the last step or appended to the URL that has been built.  The
step looks at the first character of the path alone and leaves all slashes that are there;
appending leaves one slash at the junction.  The two agree exactly if neither side brings a
slash too many.

## Main definitions

* `slashed` — a path with a slash at its start.
* `Url.Builder.Step`, `Url.Builder.run` — steps of building, one after the other.
* `Url.Builder.Step.text` — the text that a step puts behind the URL.

## Main results

* `Url.Builder.text_build_run` — **the URL is the texts of its steps.**
* `Url.Builder.text_build_path_of_cut` — the slashes at the junction of a path.
* `Url.Builder.build_path_eq_appendPath_iff` — **when a step and appending agree.**
-/

namespace SearchClient

/-- A path with a slash at its start: one is put there unless it has one. -/
def slashed (path : String) : String :=
  if path.toList.head? = some '/' then path else "/" ++ path

theorem slashed_of_startsClear {y : String} (hy : StartsClear y) : slashed y = "/" ++ y :=
  if_neg hy

/-- Of a run of slashes one is missing at most. -/
theorem slashed_slashes {y : String} (hy : StartsClear y) (n : ℕ) :
    slashed (slashes n ++ y) = slashes (max n 1) ++ y := by
  cases n with
  | zero => rw [slashes_zero, String.empty_append, slashed_of_startsClear hy]; rfl
  | succ n =>
    have hhead : (slashes (n + 1) ++ y).toList.head? = some '/' := by
      simp [List.replicate_succ]
    rw [slashed, if_pos hhead, Nat.max_eq_left (by omega)]

/-- A URL is its text. -/
theorem Url.text_inj {u v : Url} : u.text = v.text ↔ u = v := by
  cases u
  cases v
  simp

namespace Url.Builder

/-! ### Steps -/

/-- A step of building a URL. -/
inductive Step
  /-- The scheme of a protocol. -/
  | protocol (p : Protocol)
  /-- A host. -/
  | host (name : String)
  /-- A port. -/
  | port (number : UInt16)
  /-- A host with an optional port. -/
  | baseUrl (text : String)
  /-- A path. -/
  | path (text : String)
  deriving DecidableEq, Repr, Inhabited

/-- The URL under construction after a step. -/
def Step.apply (b : Builder) : Step → Builder
  | .protocol p => b.protocol p
  | .host name => b.host name
  | .port number => b.port number
  | .baseUrl text => b.baseUrl text
  | .path text => b.path text

/-- The text that a step puts behind the URL. -/
def Step.text : Step → String
  | .protocol p => p.scheme
  | .host name => name
  | .port number => ":" ++ Decimal.text number.toNat
  | .baseUrl text => dropSchemes text
  | .path text => slashed text

/-- The URL under construction after some steps. -/
def run (steps : List Step) : Builder := steps.foldl Step.apply empty

theorem run_concat (steps : List Step) (step : Step) :
    run (steps ++ [step]) = step.apply (run steps) := List.foldl_concat ..

theorem concatenated_append (ps qs : List String) :
    concatenated (ps ++ qs) = concatenated ps ++ concatenated qs := by
  induction ps with
  | nil => simp [concatenated]
  | cons p ps ih => rw [List.cons_append, concatenated, ih, concatenated, String.append_assoc]

/-- A piece is put behind the URL. -/
theorem text_build_push (b : Builder) (piece : String) :
    (b.push piece).build.text = b.build.text ++ piece := by
  simp only [build, push, concatenated_append, concatenated, String.append_empty]

theorem text_build_path (b : Builder) (p : String) :
    (b.path p).build.text = b.build.text ++ slashed p := by
  unfold path slashed
  split
  · exact text_build_push b p
  · rw [text_build_push, text_build_push, String.append_assoc]

/-- **A step puts its text behind the URL.** -/
theorem text_build_apply (b : Builder) (step : Step) :
    (step.apply b).build.text = b.build.text ++ step.text := by
  cases step with
  | path text => exact text_build_path b text
  | _ => exact text_build_push b _

/-- **The URL is the texts of its steps**, one after the other. -/
theorem text_build_run (steps : List Step) :
    (run steps).build.text = String.join (steps.map Step.text) := by
  induction steps using List.reverseRecOn with
  | nil => rfl
  | append_singleton steps step ih =>
    rw [run_concat, text_build_apply, ih]
    simp

/-! ### A path as a step, and a path appended -/

section Cut

variable {b : Builder} {p x y : String} {j k : ℕ}
  (hu : b.build.text = x ++ slashes j) (hx : EndsClear x)
  (hp : p = slashes k ++ y) (hy : StartsClear y)
include hu hp hy

/-- A step leaves all slashes at the junction, and puts one there if the path has none. -/
theorem text_build_path_of_cut :
    (b.path p).build.text = x ++ slashes (j + max k 1) ++ y := by
  rw [text_build_path, hu, hp, slashed_slashes hy, slashes_add]
  simp only [String.append_assoc]

include hx

/-- Appending leaves one slash at the junction. -/
theorem text_appendPath_of_cut : (b.build.appendPath p).text = x ++ slashes 1 ++ y := by
  rw [appendPath_eq hu hx hp hy]
  rfl

/-- The two agree exactly if one slash is left by both. -/
theorem build_path_eq_appendPath_iff_of_cut :
    (b.path p).build = b.build.appendPath p ↔
      EndsClear b.build.text ∧ ¬"//".toList <+: p.toList := by
  have htext : (b.path p).build = b.build.appendPath p ↔ j + max k 1 = 1 := by
    rw [← Url.text_inj, text_build_path_of_cut hu hp hy, text_appendPath_of_cut hu hx hp hy,
      String.append_left_inj, String.append_right_inj, slashes_injective.eq_iff]
  have hdouble : "//".toList <+: p.toList ↔ 2 ≤ k := by
    rw [hp, ← slashes_prefix_iff hy]
    rfl
  rw [htext, hdouble, hu, endsClear_append_slashes hx]
  omega

end Cut

/-- **When a path as the last step and a path appended agree.**  They do exactly if the
URL built before does not end with a slash and the path does not start with two.  In every
case the two texts are the same but for the number of slashes at the junction: the step
leaves those of both sides, and one at least on that of the path, and appending leaves
one. -/
theorem build_path_eq_appendPath_iff (steps : List Step) (p : String) :
    ((run (steps ++ [.path p])).build = (run steps).build.appendPath p ↔
        EndsClear (run steps).build.text ∧ ¬"//".toList <+: p.toList) ∧
      ∃ (x y : String) (j k : ℕ),
        (run steps).build.text = x ++ slashes j ∧ EndsClear x ∧
          p = slashes k ++ y ∧ StartsClear y ∧
          (run (steps ++ [.path p])).build.text = x ++ slashes (j + max k 1) ++ y ∧
          ((run steps).build.appendPath p).text = x ++ slashes 1 ++ y := by
  obtain ⟨x, j, hu, hx⟩ := exists_endsClear (run steps).build.text
  obtain ⟨k, y, hp, hy⟩ := exists_startsClear p
  rw [run_concat]
  exact ⟨build_path_eq_appendPath_iff_of_cut hu hx hp hy, x, y, j, k, hu, hx, hp, hy,
    text_build_path_of_cut hu hp hy, text_appendPath_of_cut hu hx hp hy⟩

example : (run [.host "h/", .path "a"]).build = ⟨"h//a"⟩ ∧
    (run [.host "h/"]).build.appendPath "a" = ⟨"h/a"⟩ := by
  decide +kernel

end Url.Builder

end SearchClient
