import SearchClient.Proofs.Url.Percent
import SearchClient.Url.Basic

/-!
# Filters on a URL

Filters are put behind a URL one after the other, and each step looks for a
question mark in what the steps before it have written.  The text that comes out
holds one parameter for each query, in order, and each of them can be read back:
nothing in a query's text can end its parameter or begin another one.

## Main definitions

* `Url.readFilter?` — the query's text that a parameter holds.
* `Url.filtersAfter?` — the queries' texts behind the first part of a URL.

## Main results

* `Url.text_foldl_addFilter` — **the text after any number of filters**, and that
  the queries are found in it again.
-/

namespace SearchClient.Url

open Percent

/-! ### Parameters -/

/-- The parameter that holds a query. -/
def filterParameter (q : Query) : String := "fq=" ++ encode q.render

/-- The text of the query that a parameter holds. -/
def readFilter? (parameter : List Char) : Option String :=
  match parameter with
  | 'f' :: 'q' :: '=' :: cs => decode? (.ofList cs)
  | _ => none

/-- The texts of the queries that stand behind the first `length` characters of a
URL: a separator comes first, and the rest is cut at the ampersands. -/
def filtersAfter? (length : ℕ) (u : Url) : Option (List String) :=
  ((u.text.toList.drop (length + 1)).splitOn '&').mapM readFilter?

theorem toList_filterParameter (q : Query) :
    (filterParameter q).toList = 'f' :: 'q' :: '=' :: (encode q.render).toList := by
  rw [filterParameter, String.toList_append]
  rfl

/-- A parameter holds its query. -/
theorem readFilter?_filterParameter (q : Query) :
    readFilter? (filterParameter q).toList = some q.render := by
  rw [toList_filterParameter]
  exact (congrArg decode? String.ofList_toList).trans (decode?_encode q.render)

/-- No query ends its parameter. -/
theorem ampersand_notMem_filterParameter (q : Query) : '&' ∉ (filterParameter q).toList := by
  have h : '&' ∉ (encode q.render).toList :=
    (encoded_encode q.render).notMem (by decide) (by decide)
  rw [toList_filterParameter]
  simpa using h

/-! ### One filter -/

theorem separator_eq (u : Url) :
    u.separator = if '?' ∈ u.text.toList then "&" else "?" := by
  simp [separator]

theorem text_addFilter (u : Url) (q : Query) :
    (u.addFilter q).text = u.text ++ u.separator ++ filterParameter q := by
  simp [addFilter, filterParameter, String.append_assoc]

/-- A URL with a filter has a question mark, whether it had one before or not. -/
theorem questionMark_mem_addFilter (u : Url) (q : Query) :
    '?' ∈ (u.addFilter q).text.toList := by
  rw [text_addFilter, separator_eq]
  split
  · next h => simp [h]
  · simp

/-! ### Any number of filters -/

/-- A separator comes before the first filter and an ampersand before each of the
others. -/
theorem text_foldl_addFilter_cons (u : Url) (q : Query) (qs : List Query) :
    ((q :: qs).foldl addFilter u).text
      = u.text ++ u.separator ++ "&".intercalate ((q :: qs).map filterParameter) := by
  induction qs generalizing u q with
  | nil => rw [List.foldl_cons, List.foldl_nil, text_addFilter]; simp
  | cons r rs ih =>
    -- the first filter has put a question mark into the text
    have hsep : (u.addFilter q).separator = "&" := by
      rw [separator_eq, if_pos (questionMark_mem_addFilter u q)]
    rw [List.foldl_cons, ih, hsep, text_addFilter, List.map_cons, List.map_cons, List.map_cons,
      String.intercalate_cons_cons]
    simp only [String.append_assoc]

/-- Parameters are cut where one ends and the next one begins. -/
theorem splitOn_intercalate_ampersand {ps : List String} (h : ∀ p ∈ ps, '&' ∉ p.toList)
    (hne : ps ≠ []) : ("&".intercalate ps).toList.splitOn '&' = ps.map String.toList := by
  rw [String.toList_intercalate]
  refine List.splitOn_intercalate '&' ?_ (by simpa using hne)
  intro l hl
  obtain ⟨p, hp, rfl⟩ := List.mem_map.1 hl
  exact h p hp

theorem mapM_readFilter? (qs : List Query) :
    (qs.map fun q => (filterParameter q).toList).mapM readFilter? = some (qs.map Query.render) := by
  induction qs with
  | nil => rfl
  | cons q qs ih =>
    rw [List.map_cons, List.mapM_cons, readFilter?_filterParameter, ih]
    rfl

/-- What stands behind a URL is one separator and the parameters. -/
theorem drop_text_foldl_addFilter (u : Url) (q : Query) (qs : List Query) :
    ((q :: qs).foldl addFilter u).text.toList.drop (u.text.length + 1)
      = ("&".intercalate ((q :: qs).map filterParameter)).toList := by
  have hlen : (u.text.toList ++ u.separator.toList).length = u.text.length + 1 := by
    rw [separator_eq, ← String.length_toList]
    split <;> simp
  rw [text_foldl_addFilter_cons, String.toList_append, String.toList_append]
  exact List.drop_left' hlen

/-- **Filters put behind a URL lose and leak nothing.**  The text is the URL, a
separator that depends on whether it holds a question mark, and one parameter for
each query in order; each parameter is encoded and is decoded to its query's text;
and what stands behind the URL is cut into the texts of just these queries. -/
theorem text_foldl_addFilter (u : Url) (q : Query) (qs : List Query) :
    ((q :: qs).foldl addFilter u).text
        = u.text ++ (if '?' ∈ u.text.toList then "&" else "?")
            ++ "&".intercalate ((q :: qs).map fun p => "fq=" ++ encode p.render) ∧
      (∀ p : Query, Encoded (encode p.render).toList ∧ decode? (encode p.render) = some p.render) ∧
      filtersAfter? u.text.length ((q :: qs).foldl addFilter u)
        = some ((q :: qs).map Query.render) := by
  refine ⟨?_, fun p => ⟨encoded_encode _, decode?_encode _⟩, ?_⟩
  · rw [text_foldl_addFilter_cons, separator_eq]
    rfl
  · have hcut : ∀ p ∈ (q :: qs).map filterParameter, '&' ∉ p.toList :=
      List.forall_mem_map.2 fun r _ => ampersand_notMem_filterParameter r
    rw [filtersAfter?, drop_text_foldl_addFilter,
      splitOn_intercalate_ampersand hcut (by simp), List.map_map]
    exact mapM_readFilter? (q :: qs)

end SearchClient.Url
