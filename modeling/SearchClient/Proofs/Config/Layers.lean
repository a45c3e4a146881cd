import Mathlib.Data.List.Induction
import Mathlib.Data.List.Nodup
import SearchClient.Config.Layers
import SearchClient.Proofs.Text.Lowercase

/-!
# Values in layers

In layers whose names are plain, what stands under a name depends on what the layers
have under that name and on nothing else.  The value of the highest layer is put over
those below it: a table keeps the entries of the tables right below it, and any
other value stands for itself.

## Main definitions

* `Entries.Plain` — layers with plain names.
* `Entries.defined?` — the value that a layer has under a name.
* `Node.stack` — values put over each other.
* `Node.runNames` — the names in the tables with which values start.

## Main results

* `Entries.get?_overlay` — one layer over others.
* `Entries.get?_ofLayers` — **layers are stacked name by name.**
* `Node.stack_of_not_table` — **a value that is no table hides what is below it.**
* `Node.exists_stack_eq_table` — **tables are joined down to the first other value.**
-/

namespace SearchClient

open Text (lowercase)

/-! ### Plain names -/

namespace KeyPath

theorem steps?_eq_none {fuel : ℕ} {c : Char} {cs : List Char} (hstop : c ≠ '.')
    (hbracket : c ≠ '[') : steps? fuel (c :: cs) = none := by
  cases fuel with
  | zero => rfl
  | succ fuel =>
    unfold steps?
    split <;> simp_all

/-- A name without full stops and brackets is taken as it is. -/
theorem ofName_of_plain {s : String} (hstop : '.' ∉ s.toList) (hbracket : '[' ∉ s.toList) :
    ofName s = ⟨s, []⟩ := by
  have hread : ofName s = ((if (s.toList.takeWhile isNameChar).isEmpty then none else
      (steps? (s.toList.length + 1) (s.toList.drop (s.toList.takeWhile isNameChar).length)).map
        fun steps => KeyPath.mk (String.ofList (s.toList.takeWhile isNameChar)) steps)).getD
      ⟨s, []⟩ := rfl
  have hsplit := List.prefix_iff_eq_append.1 (List.takeWhile_prefix (l := s.toList) isNameChar)
  rw [hread]
  cases hrest : s.toList.drop (s.toList.takeWhile isNameChar).length with
  | nil =>
    rw [hrest, List.append_nil] at hsplit
    rw [hsplit, String.ofList_toList]
    split <;> rfl
  | cons c cs =>
    -- the name is no path, since no step starts with `c`
    have hc : c ∈ s.toList := List.mem_of_mem_drop (hrest ▸ List.mem_cons_self)
    rw [steps?_eq_none (fun h => hstop (h ▸ hc)) (fun h => hbracket (h ▸ hc))]
    split <;> rfl

end KeyPath

namespace Entries

/-! ### Names of entries -/

/-- The names of the entries of a table. -/
def names (es : Entries) : List String := es.map Prod.fst

theorem mem_names_put {k n : String} {v : Node} {es : Entries} :
    n ∈ (es.put k v).names ↔ n = k ∨ n ∈ es.names := by
  induction es with
  | nil => simp [names]
  | cons e es ih =>
    by_cases h : e.1 = k
    · simp [put, names, h]
    · have hnames : names (put k v (e :: es)) = e.1 :: names (put k v es) := by
        simp [put, names, h]
      rw [hnames, List.mem_cons, ih]
      simp only [names, List.map_cons, List.mem_cons]
      exact or_left_comm

theorem nodup_names_put {es : Entries} (h : es.names.Nodup) (k : String) (v : Node) :
    (es.put k v).names.Nodup := by
  induction es with
  | nil => exact List.nodup_singleton k
  | cons e es ih =>
    obtain ⟨hnot, hes⟩ := List.nodup_cons.1 h
    by_cases hk : e.1 = k
    · simpa [put, names, hk] using h
    · have hnames : names (put k v (e :: es)) = e.1 :: names (put k v es) := by
        simp [put, names, hk]
      rw [hnames, List.nodup_cons, mem_names_put]
      exact ⟨fun hmem => hmem.elim hk hnot, ih hes⟩

/-! ### Layers -/

/-- The value under a name, in capital or small letters. -/
def defined? (name : String) : Entries → Option Node
  | [] => none
  | (k, v) :: es => if lowercase k = name then some v else defined? name es

/-- Names that are no paths and differ in more than the case of their letters, and
values that are not empty tables. -/
structure Plain (es : Entries) : Prop where
  /-- No name holds a full stop. -/
  stop : ∀ e ∈ es, '.' ∉ e.1.toList
  /-- No name holds a bracket. -/
  bracket : ∀ e ∈ es, '[' ∉ e.1.toList
  /-- No two names are equal in lower case. -/
  nodup : (es.map fun e => lowercase e.1).Nodup
  /-- No value is an empty table. -/
  filled : ∀ e ∈ es, e.2 ≠ .table []

theorem Plain.tail {e : String × Node} {es : Entries} (h : Plain (e :: es)) : Plain es where
  stop := fun x hx => h.stop x (List.mem_cons_of_mem e hx)
  bracket := fun x hx => h.bracket x (List.mem_cons_of_mem e hx)
  nodup := (List.nodup_cons.1 h.nodup).2
  filled := fun x hx => h.filled x (List.mem_cons_of_mem e hx)

theorem defined?_eq_none {name : String} {es : Entries}
    (h : name ∉ es.map fun e => lowercase e.1) : es.defined? name = none := by
  induction es with
  | nil => rfl
  | cons e es ih =>
    rw [List.map_cons, List.mem_cons, not_or] at h
    rw [defined?, if_neg (Ne.symm h.1), ih h.2]

theorem ne_empty_of_defined? {name : String} {v : Node} {es : Entries} (hes : es.Plain)
    (h : es.defined? name = some v) : v ≠ .table [] := by
  induction es with
  | nil => cases h
  | cons e es ih =>
    rw [defined?] at h
    split at h
    · cases h
      exact hes.filled e List.mem_cons_self
    · exact ih hes.tail h

/-- A value under a plain name is put there. -/
theorem overlay_cons {below layer : Entries} {k : String} {v : Node}
    (h : Plain ((k, v) :: layer)) :
    below.overlay ((k, v) :: layer) = (below.store (lowercase k) v.lowerNames).overlay layer := by
  have hstop : '.' ∉ (lowercase k).toList := fun hmem =>
    h.stop (k, v) List.mem_cons_self (Text.mem_of_mem_lowercase (by decide) hmem)
  have hbracket : '[' ∉ (lowercase k).toList := fun hmem =>
    h.bracket (k, v) List.mem_cons_self (Text.mem_of_mem_lowercase (by decide) hmem)
  rw [overlay, Node.lowerNamesOf, List.foldl_cons, KeyPath.ofName_of_plain hstop hbracket]
  rfl

/-- **What stands under a name when a layer is put over others.** -/
theorem get?_overlay {layer : Entries} (h : layer.Plain) (below : Entries) (name : String) :
    (below.overlay layer).get? name =
      match layer.defined? name with
      | some v => some (Node.merge (below.get? name) v.lowerNames)
      | none => below.get? name := by
  induction layer generalizing below with
  | nil => rfl
  | cons e layer ih =>
    obtain ⟨k, v⟩ := e
    rw [overlay_cons h, ih h.tail, defined?]
    by_cases hk : lowercase k = name
    · -- no other entry has the name
      subst hk
      have hnone : defined? (lowercase k) layer = none :=
        defined?_eq_none (List.nodup_cons.1 h.nodup).1
      rw [if_pos rfl, hnone, store, get?_put_self]
    · rw [if_neg hk, store, get?_put_of_ne (Ne.symm hk)]

end Entries

namespace Node

/-! ### Stacks -/

/-- Values put over each other, the highest one first. -/
def stack : List Node → Option Node
  | [] => none
  | v :: below => some (merge (stack below) v.lowerNames)

end Node

/-- **Layers are stacked name by name.** -/
theorem Entries.get?_ofLayers {layers : List Entries} (h : ∀ l ∈ layers, l.Plain) (name : String) :
    (Entries.ofLayers layers).get? name =
      Node.stack (layers.reverse.filterMap (Entries.defined? name)) := by
  induction layers using List.reverseRecOn with
  | nil => rfl
  | append_singleton layers layer ih =>
    have hlayer : layer.Plain := h layer (List.mem_append_right _ List.mem_cons_self)
    rw [ofLayers, List.foldl_append, List.foldl_cons, List.foldl_nil, get?_overlay hlayer,
      ← ofLayers, ih fun l hl => h l (List.mem_append_left _ hl), List.reverse_append,
      List.reverse_singleton, List.singleton_append, List.filterMap_cons]
    cases defined? name layer <;> rfl

namespace Node

/-- Whether a value is a table. -/
def isTable : Node → Bool
  | table _ => true
  | _ => false

/-- The names in the tables with which some values start. -/
def runNames (vs : List Node) : List String :=
  (vs.takeWhile isTable).flatMap fun v => v.entries.names

/-- The entries of the value that a stack amounts to. -/
def stackEntries (vs : List Node) : Entries := ((stack vs).getD (.table [])).entries

theorem names_lowerNamesOf (es : Entries) : (lowerNamesOf es).map Prod.fst = es.names.map lowercase := by
  induction es with
  | nil => rfl
  | cons e es ih =>
    obtain ⟨k, v⟩ := e
    rw [lowerNamesOf, List.map_cons, ih]
    rfl

/-- The entries that a value has after some were put into it. -/
theorem names_mergeEntries (target : Node) (es : Entries) :
    (∀ n, n ∈ (mergeEntries target es).entries.names ↔ n ∈ target.entries.names ∨ n ∈ es.names) ∧
      (target.entries.names.Nodup → (mergeEntries target es).entries.names.Nodup) := by
  induction es generalizing target with
  | nil => exact ⟨fun n => by simp [mergeEntries, Entries.names], id⟩
  | cons e es ih =>
    obtain ⟨k, v⟩ := e
    rw [mergeEntries]
    refine ⟨fun n => ?_, fun h => (ih _).2 (Entries.nodup_names_put h k _)⟩
    rw [(ih _).1, entries, Entries.mem_names_put, or_comm (a := n = k), or_assoc]
    simp [Entries.names]

/-- A table into which entries are put remains one. -/
theorem exists_mergeEntries_eq_table (target es : Entries) :
    ∃ es', mergeEntries (.table target) es = .table es' := by
  induction es generalizing target with
  | nil => exact ⟨target, by rw [mergeEntries]⟩
  | cons e es ih =>
    rw [mergeEntries]
    exact ih _

/-- **A value that is no table hides what is below it.** -/
theorem stack_of_not_table {v : Node} (h : v.isTable = false) (below : List Node) :
    stack (v :: below) = some v.lowerNames := by
  cases v with
  | table es => cases h
  | _ => simp [stack, lowerNames, merge]

theorem stackEntries_table (es : Entries) (below : List Node) :
    stackEntries (.table es :: below) =
      (mergeEntries ((stack below).getD (.table [])) (lowerNamesOf es)).entries := by
  rw [stackEntries, stack, lowerNames, merge]
  rfl

/-- The names in a stack are those in the tables with which it starts, in lower case
and each once. -/
theorem names_stackEntries (vs : List Node) :
    (∀ n, n ∈ (stackEntries vs).names ↔ ∃ m ∈ runNames vs, lowercase m = n) ∧
      (stackEntries vs).names.Nodup := by
  induction vs with
  | nil => exact ⟨fun n => by simp [stackEntries, stack, runNames, entries, Entries.names],
      List.nodup_nil⟩
  | cons v below ih =>
    cases v with
    | table es =>
      obtain ⟨hmem, hnodup⟩ :=
        names_mergeEntries ((stack below).getD (.table [])) (lowerNamesOf es)
      rw [stackEntries_table]
      refine ⟨fun n => ?_, hnodup ih.2⟩
      have hrun : runNames (.table es :: below) = Entries.names es ++ runNames below := rfl
      rw [hmem, ← stackEntries, ih.1, Entries.names, names_lowerNamesOf, hrun]
      simp only [List.mem_append, List.mem_map, or_and_right, exists_or]
      exact or_comm
    | _ =>
      rw [stackEntries, stack_of_not_table rfl]
      simp [lowerNames, entries, runNames, isTable, Entries.names]

/-- **Tables are joined down to the first other value.** -/
theorem exists_stack_eq_table {es : Entries} (h : es ≠ []) (below : List Node) :
    ∃ es', stack (.table es :: below) = some (.table es') ∧ es' ≠ [] ∧ (Entries.names es').Nodup ∧
      ∀ n, n ∈ Entries.names es' ↔ ∃ m ∈ runNames (.table es :: below), lowercase m = n := by
  obtain ⟨hmem, hnodup⟩ := names_stackEntries (.table es :: below)
  obtain ⟨⟨k, v⟩, es, rfl⟩ := List.exists_cons_of_ne_nil h
  obtain ⟨es', hes'⟩ : ∃ es', stack (.table ((k, v) :: es) :: below) = some (.table es') := by
    rw [stack, lowerNames, merge, lowerNamesOf, mergeEntries]
    obtain ⟨es', hes'⟩ := exists_mergeEntries_eq_table _ (lowerNamesOf es)
    exact ⟨es', congrArg some hes'⟩
  have hentries : stackEntries (.table ((k, v) :: es) :: below) = es' := by
    rw [stackEntries, hes']
    rfl
  rw [hentries] at hmem hnodup
  refine ⟨es', hes', fun hnil => ?_, hnodup, hmem⟩
  have hk : lowercase k ∈ Entries.names es' := (hmem _).2 ⟨k, List.mem_cons_self, rfl⟩
  rw [hnil] at hk
  cases hk

end Node

end SearchClient
