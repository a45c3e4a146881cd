import SearchClient.Proofs.Url.Filters
import SearchClient.Query.Selector

/-!
# Paths and filters in any order

A URL is one text, in which paths are appended and queries are added.  A path goes to
the end of the text, whatever stands there: before the first query it belongs to the
path of the URL, and behind a query it gets into that query's parameter, which is then
not read back as the query.  So the parameters hold the queries exactly if all paths
come first.

All the rest holds in any order: there is one parameter for each query, in their
order, and each begins with the encoded text of its query.

## Main definitions

* `Url.Step`, `Url.run` — steps on a URL, one after the other.
* `Url.parameters` — what stands behind the first question mark, cut at the ampersands.
* `Url.pathsAhead`, `Url.additions` — the paths before the first query, and the queries
  with the paths behind each of them.
* `Url.trail` — what paths leave in a text that does not end with a slash.

## Main results

* `Url.foldl_appendPath_append` — paths behind a text that does not end with a slash.
* `Url.text_run_of_mem`, `Url.text_run` — the text after any steps.
* `Url.parameters_run` — **the parameters after any steps**, and `Url.parameters_pathBehind`,
  where a query is damaged.
-/

namespace SearchClient.Url

open Percent Text

/-! ### Steps -/

/-- A step on a URL. -/
inductive Step
  /-- A path is appended. -/
  | path (text : String)
  /-- A query is added. -/
  | filter (query : Query)
  deriving DecidableEq, Repr, Inhabited

/-- The URL after a step. -/
def Step.apply (u : Url) : Step → Url
  | .path p => u.appendPath p
  | .filter q => u.addFilter q

/-- The query that a step adds. -/
def Step.query? : Step → Option Query
  | .path _ => none
  | .filter q => some q

/-- The URL after some steps. -/
def run (u : Url) (steps : List Step) : Url := steps.foldl Step.apply u

@[simp] theorem run_nil (u : Url) : u.run [] = u := rfl

@[simp] theorem run_path (u : Url) (p : String) (steps : List Step) :
    u.run (.path p :: steps) = (u.appendPath p).run steps := rfl

@[simp] theorem run_filter (u : Url) (q : Query) (steps : List Step) :
    u.run (.filter q :: steps) = (u.addFilter q).run steps := rfl

/-- The paths that come before the first query. -/
def pathsAhead : List Step → List String
  | .path p :: steps => p :: pathsAhead steps
  | _ => []

/-- The queries in their order, each with the paths that come before the next one. -/
def additions : List Step → List (Query × List String)
  | [] => []
  | .path _ :: steps => additions steps
  | .filter q :: steps => (q, pathsAhead steps) :: additions steps

theorem map_fst_additions (steps : List Step) :
    (additions steps).map Prod.fst = steps.filterMap Step.query? := by
  induction steps with
  | nil => rfl
  | cons s steps ih =>
    cases s with
    | path p => exact ih
    | filter q => exact congrArg (q :: ·) ih

theorem path_mem_of_mem_pathsAhead {steps : List Step} {p : String} (h : p ∈ pathsAhead steps) :
    Step.path p ∈ steps := by
  induction steps with
  | nil => cases h
  | cons s steps ih =>
    cases s with
    | path r =>
      rcases List.mem_cons.1 h with rfl | h
      · exact List.mem_cons_self
      · exact List.mem_cons_of_mem _ (ih h)
    | filter q => cases h

theorem path_mem_of_mem_additions {steps : List Step} {a : Query × List String}
    (ha : a ∈ additions steps) {p : String} (hp : p ∈ a.2) : Step.path p ∈ steps := by
  induction steps with
  | nil => cases ha
  | cons s steps ih =>
    cases s with
    | path r => exact List.mem_cons_of_mem _ (ih ha)
    | filter q =>
      rcases List.mem_cons.1 ha with rfl | ha
      · exact List.mem_cons_of_mem _ (path_mem_of_mem_pathsAhead hp)
      · exact List.mem_cons_of_mem _ (ih ha)

/-- No path comes behind a query exactly if all paths come first. -/
theorem forall_additions_iff {steps : List Step} :
    (∀ a ∈ additions steps, a.2 = []) ↔
      ∃ (paths : List String) (queries : List Query),
        steps = paths.map .path ++ queries.map .filter := by
  constructor
  · intro h
    induction steps with
    | nil => exact ⟨[], [], rfl⟩
    | cons s steps ih =>
      cases s with
      | path p =>
        obtain ⟨paths, queries, rfl⟩ := ih h
        exact ⟨p :: paths, queries, rfl⟩
      | filter q =>
        obtain ⟨hahead, hrest⟩ := List.forall_mem_cons.1 h
        obtain ⟨paths, queries, rfl⟩ := ih hrest
        cases paths with
        | nil => exact ⟨[], q :: queries, rfl⟩
        | cons p paths => cases hahead
  · rintro ⟨paths, queries, rfl⟩
    induction paths with
    | nil =>
      induction queries with
      | nil => simp [additions]
      | cons q queries ih =>
        refine List.forall_mem_cons.2 ⟨?_, ih⟩
        cases queries <;> rfl
    | cons p paths ih => exact ih

/-! ### Paths -/

/-- A path brings in its own characters and a slash. -/
theorem mem_appendPath {u : Url} {p : String} {c : Char} (hc : c ≠ '/') :
    c ∈ (u.appendPath p).text.toList ↔ c ∈ u.text.toList ∨ c ∈ p.toList := by
  have hend : c ∈ dropTrailingSlashes u.text ↔ c ∈ u.text.toList :=
    mem_dropEndWhile (by simpa using hc)
  have hstart : c ∈ dropLeadingSlashes p ↔ c ∈ p.toList := mem_dropWhile (by simpa using hc)
  rw [appendPath, String.toList_ofList, List.mem_append, List.mem_cons, or_iff_right hc, hend,
    hstart]

theorem mem_foldl_appendPath {u : Url} {paths : List String} {c : Char} (hc : c ≠ '/') :
    c ∈ (paths.foldl appendPath u).text.toList ↔
      c ∈ u.text.toList ∨ ∃ p ∈ paths, c ∈ p.toList := by
  induction paths generalizing u with
  | nil => simp
  | cons p paths ih =>
    rw [List.foldl_cons, ih, mem_appendPath hc, List.exists_mem_cons_iff, or_assoc]

/-- What paths leave in a text that does not end with a slash. -/
def trail (paths : List String) : String := (paths.foldl appendPath ⟨""⟩).text

/-- A path behind a text that does not end with a slash. -/
theorem appendPath_append {s : String} (hs : dropTrailingSlashes s = s.toList) (t p : String) :
    appendPath ⟨s ++ t⟩ p = ⟨s ++ (appendPath ⟨t⟩ p).text⟩ := by
  have htrim : dropTrailingSlashes (s ++ t) = s.toList ++ dropTrailingSlashes t := by
    rw [dropTrailingSlashes, String.toList_append]
    exact dropEndWhile_append hs t.toList
  simp only [appendPath, htrim]
  rw [List.append_assoc, String.ofList_append, String.ofList_toList]

/-- **Paths behind a text that does not end with a slash** leave it as it is. -/
theorem foldl_appendPath_append {s : String} (hs : dropTrailingSlashes s = s.toList) (t : String)
    (paths : List String) :
    paths.foldl appendPath ⟨s ++ t⟩ = ⟨s ++ (paths.foldl appendPath ⟨t⟩).text⟩ := by
  induction paths generalizing t with
  | nil => rfl
  | cons p paths ih =>
    rw [List.foldl_cons, List.foldl_cons, appendPath_append hs]
    exact ih _

theorem text_foldl_appendPath {s : String} (hs : dropTrailingSlashes s = s.toList)
    (paths : List String) : (paths.foldl appendPath ⟨s⟩).text = s ++ trail paths := by
  have h := foldl_appendPath_append hs "" paths
  rw [String.append_empty] at h
  rw [h, trail]

/-- A path leaves a slash at least. -/
theorem trail_eq_empty {paths : List String} : trail paths = "" ↔ paths = [] := by
  constructor
  · intro h
    rcases List.eq_nil_or_concat paths with rfl | ⟨before, p, rfl⟩
    · rfl
    · rw [trail, List.concat_eq_append, List.foldl_concat, appendPath] at h
      simpa using congrArg String.toList h
  · rintro rfl
    rfl

/-! ### Queries with paths behind them -/

/-- The parameter of a query with paths behind it. -/
def parameterWith (a : Query × List String) : String := filterParameter a.1 ++ trail a.2

/-- **A parameter gives back its query** exactly if no path stands behind it. -/
theorem readFilter?_parameterWith {a : Query × List String} :
    readFilter? (parameterWith a).toList = some a.1.render ↔ a.2 = [] := by
  have hvalue : readFilter? (parameterWith a).toList
      = decode? (encode a.1.render ++ trail a.2) := by
    rw [parameterWith, String.toList_append, toList_filterParameter, List.cons_append,
      List.cons_append, List.cons_append, readFilter?, ← String.toList_append,
      String.ofList_toList]
  rw [hvalue, decode?_encode_append, trail_eq_empty]

theorem slash_notMem_filterParameter (q : Query) : '/' ∉ (filterParameter q).toList := by
  have h : '/' ∉ (encode q.render).toList :=
    (encoded_encode q.render).notMem (by decide) (by decide)
  rw [toList_filterParameter]
  simpa using h

/-- A URL with a query does not end with a slash. -/
theorem dropTrailingSlashes_addFilter (u : Url) (q : Query) :
    dropTrailingSlashes (u.addFilter q).text = (u.addFilter q).text.toList := by
  have hne : (filterParameter q).toList ≠ [] := by
    rw [toList_filterParameter]
    exact List.cons_ne_nil _ _
  obtain hnil | ⟨cs, c, hlast⟩ := List.eq_nil_or_concat (filterParameter q).toList
  · exact absurd hnil hne
  · have hc : (c == '/') = false := by
      have hmem : c ∈ (filterParameter q).toList := by simp [hlast]
      have hslash := slash_notMem_filterParameter q
      rw [beq_eq_false_iff_ne]
      rintro rfl
      exact hslash hmem
    rw [dropTrailingSlashes, text_addFilter, String.toList_append, hlast, List.concat_eq_append,
      ← List.append_assoc, dropEndWhile_concat, hc]
    rfl

/-- A query and the paths behind it. -/
theorem text_foldl_appendPath_addFilter (u : Url) (q : Query) (paths : List String) :
    (paths.foldl appendPath (u.addFilter q)).text
      = u.text ++ u.separator ++ parameterWith (q, paths) := by
  have h := text_foldl_appendPath (dropTrailingSlashes_addFilter u q) paths
  rw [text_addFilter] at h
  rw [parameterWith, ← String.append_assoc, ← h, ← text_addFilter]

/-! ### Runs -/

/-- The text after any steps on a URL that has a question mark. -/
theorem text_run_of_mem {u : Url} (hu : '?' ∈ u.text.toList) (steps : List Step) :
    (u.run steps).text = ((pathsAhead steps).foldl appendPath u).text
      ++ String.join ((additions steps).map fun a => "&" ++ parameterWith a) := by
  induction steps generalizing u with
  | nil => simp [pathsAhead, additions]
  | cons s steps ih =>
    cases s with
    | path p =>
      rw [run_path, ih ((mem_appendPath (by decide)).2 (.inl hu))]
      rfl
    | filter q =>
      rw [run_filter, ih (questionMark_mem_addFilter u q), text_foldl_appendPath_addFilter,
        separator_eq, if_pos hu]
      simp [pathsAhead, additions, String.append_assoc]

/-- The parameters behind the first one. -/
theorem intercalate_cons_eq_append_join (p : String) (ps : List String) :
    "&".intercalate (p :: ps) = p ++ String.join (ps.map ("&" ++ ·)) := by
  induction ps generalizing p with
  | nil => simp
  | cons r rs ih =>
    rw [String.intercalate_cons_cons, ih, List.map_cons, String.join_cons, String.append_assoc,
      String.append_assoc]

/-- The parameters that the additions make, behind their question mark. -/
def parametersText : List (Query × List String) → String
  | [] => ""
  | a :: as => "?" ++ "&".intercalate ((a :: as).map parameterWith)

/-- **The text after any steps** on a URL without a question mark. -/
theorem text_run {u : Url} {steps : List Step} (hu : '?' ∉ u.text.toList)
    (hpaths : ∀ p, .path p ∈ steps → '?' ∉ p.toList) :
    (u.run steps).text
      = ((pathsAhead steps).foldl appendPath u).text ++ parametersText (additions steps) := by
  induction steps generalizing u with
  | nil => simp [pathsAhead, additions, parametersText]
  | cons s steps ih =>
    cases s with
    | path p =>
      have hp : '?' ∉ (u.appendPath p).text.toList := by
        rw [mem_appendPath (by decide), not_or]
        exact ⟨hu, hpaths p List.mem_cons_self⟩
      rw [run_path, ih hp fun r hr => hpaths r (List.mem_cons_of_mem _ hr)]
      rfl
    | filter q =>
      rw [run_filter, text_run_of_mem (questionMark_mem_addFilter u q),
        text_foldl_appendPath_addFilter, separator_eq, if_neg hu, additions, parametersText,
        List.map_cons, intercalate_cons_eq_append_join, List.map_map]
      simp [pathsAhead, String.append_assoc, Function.comp_def]

/-! ### Parameters -/

/-- The parameters of a URL: what stands behind its first question mark, cut at the
ampersands. -/
def parameters (u : Url) : List (List Char) :=
  match u.text.toList.dropWhile (· ≠ '?') with
  | [] => []
  | _ :: cs => cs.splitOn '&'

theorem dropWhile_ne_of_notMem {c : Char} {cs : List Char} (h : c ∉ cs) (ds : List Char) :
    (cs ++ ds).dropWhile (· ≠ c) = ds.dropWhile (· ≠ c) := by
  refine List.dropWhile_append_of_pos fun d hd => ?_
  rw [decide_eq_true_iff]
  rintro rfl
  exact h hd

/-- The parameters behind a text without a question mark. -/
theorem parameters_parametersText {u : Url} {s : String} (hs : '?' ∉ s.toList)
    {as : List (Query × List String)} (has : ∀ a ∈ as, '&' ∉ (parameterWith a).toList)
    (hu : u.text = s ++ parametersText as) :
    u.parameters = as.map fun a => (parameterWith a).toList := by
  rw [parameters, hu, String.toList_append, dropWhile_ne_of_notMem hs]
  cases as with
  | nil => rfl
  | cons a as =>
    have hcut : ∀ p ∈ (a :: as).map parameterWith, '&' ∉ p.toList := List.forall_mem_map.2 has
    have hmark : (parametersText (a :: as)).toList
        = '?' :: ("&".intercalate ((a :: as).map parameterWith)).toList := by
      rw [parametersText, String.toList_append]
      rfl
    rw [hmark, List.dropWhile_cons_of_neg (by simp)]
    refine (splitOn_intercalate_ampersand hcut (by simp)).trans ?_
    rw [List.map_map]
    rfl

theorem ampersand_notMem_parameterWith {a : Query × List String}
    (h : ∀ p ∈ a.2, '&' ∉ p.toList) : '&' ∉ (parameterWith a).toList := by
  rw [parameterWith, String.toList_append, List.mem_append, not_or, trail,
    mem_foldl_appendPath (by decide), not_or]
  refine ⟨ampersand_notMem_filterParameter a.1, by simp, ?_⟩
  rintro ⟨p, hp, hmem⟩
  exact h p hp hmem

theorem parameters_run_eq {u : Url} {steps : List Step} (hu : '?' ∉ u.text.toList)
    (hpaths : ∀ p, .path p ∈ steps → '?' ∉ p.toList ∧ '&' ∉ p.toList) :
    (u.run steps).parameters = (additions steps).map fun a => (parameterWith a).toList := by
  have hahead : '?' ∉ ((pathsAhead steps).foldl appendPath u).text.toList := by
    rw [mem_foldl_appendPath (by decide), not_or]
    refine ⟨hu, ?_⟩
    rintro ⟨p, hp, hmem⟩
    exact (hpaths p (path_mem_of_mem_pathsAhead hp)).1 hmem
  have hbehind : ∀ a ∈ additions steps, '&' ∉ (parameterWith a).toList := fun a ha =>
    ampersand_notMem_parameterWith fun p hp => (hpaths p (path_mem_of_mem_additions ha hp)).2
  exact parameters_parametersText hahead hbehind (text_run hu fun p hp => (hpaths p hp).1)

/-- **The parameters after any steps.**  If the URL has no question mark and the paths
have neither that nor an ampersand, there is one parameter for each query, in their
order: the encoded query, and behind it what the paths leave that come before the next
query.  A parameter is read back as its query exactly if there are no such paths.  So
all parameters are read back as the queries exactly if all paths come first. -/
theorem parameters_run {u : Url} {steps : List Step} (hu : '?' ∉ u.text.toList)
    (hpaths : ∀ p, .path p ∈ steps → '?' ∉ p.toList ∧ '&' ∉ p.toList) :
    (u.run steps).parameters
        = (additions steps).map (fun a => ("fq=" ++ encode a.1.render ++ trail a.2).toList) ∧
      (additions steps).map Prod.fst = steps.filterMap Step.query? ∧
      (∀ a ∈ additions steps,
        readFilter? ("fq=" ++ encode a.1.render ++ trail a.2).toList = some a.1.render ↔
          a.2 = []) ∧
      ((u.run steps).parameters.map readFilter?
          = (steps.filterMap Step.query?).map (fun q => some q.render) ↔
        ∃ (paths : List String) (queries : List Query),
          steps = paths.map .path ++ queries.map .filter) := by
  have hparameters := parameters_run_eq hu hpaths
  refine ⟨hparameters, map_fst_additions steps, fun a _ => readFilter?_parameterWith, ?_⟩
  rw [hparameters, ← map_fst_additions, List.map_map, List.map_map, List.map_inj_left,
    ← forall_additions_iff]
  exact forall₂_congr fun a _ => readFilter?_parameterWith

/-- A path before the first query and one between the queries. -/
def mixedSteps : List Step :=
  [.path "solr/", .filter ((Selector.including "a").is (.text "1")), .path "/select",
    .filter (Selector.including "b").isTrue]

theorem path_mem_mixedSteps {p : String} (h : .path p ∈ mixedSteps) :
    '?' ∉ p.toList ∧ '&' ∉ p.toList := by
  have hp : p = "solr/" ∨ p = "/select" := by simpa [mixedSteps] using h
  rcases hp with rfl | rfl <;> decide

theorem parameters_run_mixedSteps :
    '?' ∉ (⟨"http://h"⟩ : Url).text.toList ∧
      (∀ p, .path p ∈ mixedSteps → '?' ∉ p.toList ∧ '&' ∉ p.toList) ∧
      (run ⟨"http://h"⟩ mixedSteps).text = "http://h/solr/?fq=a%3A1/select&fq=b%3Atrue" ∧
      (run ⟨"http://h"⟩ mixedSteps).parameters
        = ["fq=a%3A1/select".toList, "fq=b%3Atrue".toList] ∧
      (run ⟨"http://h"⟩ mixedSteps).parameters.map readFilter? ≠ [some "a:1", some "b:true"] := by
  have hu : '?' ∉ (⟨"http://h"⟩ : Url).text.toList := by decide
  obtain ⟨hparameters, -, -, hread⟩ := parameters_run hu fun p => path_mem_mixedSteps
  refine ⟨hu, fun p => path_mem_mixedSteps, by decide +kernel, ?_, fun h => ?_⟩
  · rw [hparameters]
    decide +kernel
  · -- a path stands behind the first query
    have hqueries : [some "a:1", some "b:true"]
        = (mixedSteps.filterMap Step.query?).map fun q => some q.render := by decide +kernel
    have hahead := forall_additions_iff.2 (hread.1 (h.trans hqueries))
    simp [mixedSteps, additions, pathsAhead] at hahead

/-- A query and a path behind it. -/
def pathBehind : List Step :=
  [.filter ((Selector.including "a").is (.text "1")), .path "select"]

/-- **A path behind a query damages it**: it is another query that is read back. -/
theorem parameters_pathBehind :
    '?' ∉ (⟨"http://h/c"⟩ : Url).text.toList ∧
      (∀ p, .path p ∈ pathBehind → '?' ∉ p.toList ∧ '&' ∉ p.toList) ∧
      (run ⟨"http://h/c"⟩ pathBehind).text = "http://h/c?fq=a%3A1/select" ∧
      (run ⟨"http://h/c"⟩ pathBehind).parameters.map readFilter? = [some "a:1/select"] ∧
      (run ⟨"http://h/c"⟩ pathBehind).parameters.map readFilter?
        ≠ (pathBehind.filterMap Step.query?).map (fun q => some q.render) := by
  refine ⟨by decide, fun p hp => ?_, by decide +kernel, by decide +kernel, by decide +kernel⟩
  obtain rfl : p = "select" := by simpa [pathBehind] using hp
  decide

end SearchClient.Url
