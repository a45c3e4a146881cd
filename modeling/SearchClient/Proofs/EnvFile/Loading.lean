import Mathlib.Data.List.Basic
import SearchClient.EnvFile.Definition

/-!
# The variables that a file leaves

A file is loaded line by line, and each line sees the variables that the lines before
it have left.  What comes out in the end can be said of the file as a whole: every
definition has a value, in which names stand for what the process had or else for
what was defined first, and of the definitions those count whose names are new.

## Main definitions

* `definitionsOf`, `definitions` — the definitions of some lines and of a file.
* `assignments` — definitions with their values.
* `Variables.fresh` — the variables whose names are new.
* `merged` — the variables of a process and of a file.

## Main results

* `loadLines_eq`, `load_eq_merged` — **what loading leaves.**
* `get?_merged` — **the process counts before the file, and in the file the first
  definition.**
-/

namespace SearchClient

namespace Variables

/-! ### Names -/

/-- The names of some variables. -/
def names (vs : Variables) : List String := vs.map Prod.fst

/-- The variables whose names are new: not taken, and not the name of one before. -/
def fresh (taken : List String) : Variables → Variables
  | [] => []
  | v :: vs => if v.1 ∈ taken then fresh taken vs else v :: fresh (taken ++ [v.1]) vs

@[simp] theorem names_append (vs ws : Variables) : names (vs ++ ws) = names vs ++ names ws :=
  List.map_append

theorem get?_cons (k text name : String) (vs : Variables) :
    get? name ((k, text) :: vs) = if k = name then some text else vs.get? name := rfl

/-- Variables are looked up in the order in which they stand. -/
theorem get?_append (vs ws : Variables) (name : String) :
    get? name (vs ++ ws) = (vs.get? name).or (ws.get? name) := by
  induction vs with
  | nil => rfl
  | cons v vs ih =>
    obtain ⟨k, text⟩ := v
    rw [List.cons_append, get?_cons, get?_cons, ih]
    split <;> rfl

theorem isSome_get? (vs : Variables) (name : String) :
    (vs.get? name).isSome = true ↔ name ∈ vs.names := by
  induction vs with
  | nil => exact iff_of_false Bool.false_ne_true List.not_mem_nil
  | cons v vs ih =>
    obtain ⟨k, text⟩ := v
    have hnames : names ((k, text) :: vs) = k :: names vs := rfl
    rw [get?_cons, hnames, List.mem_cons]
    by_cases hk : k = name
    · simp [hk]
    · rw [if_neg hk, ih]
      simp [Ne.symm hk]

/-- A name that is there already gets no further text. -/
theorem get?_append_of_mem {vs : Variables} {name : String} (h : name ∈ vs.names)
    (ws : Variables) : get? name (vs ++ ws) = vs.get? name := by
  rw [get?_append]
  obtain ⟨text, htext⟩ := Option.isSome_iff_exists.1 ((isSome_get? vs name).2 h)
  rw [htext]
  rfl

/-- A definition adds a variable if its name is new. -/
theorem define_eq (vs : Variables) (name value : String) :
    vs.define name value = if name ∈ vs.names then vs else vs ++ [(name, value)] := by
  unfold define
  by_cases h : name ∈ vs.names
  · rw [if_pos h, if_pos ((isSome_get? vs name).2 h)]
  · rw [if_neg h, if_neg (mt (isSome_get? vs name).1 h)]

/-- Under a name that is not taken, the first variable is new. -/
theorem get?_fresh (taken : List String) (vs : Variables) (name : String) :
    get? name (fresh taken vs) = if name ∈ taken then none else vs.get? name := by
  induction vs generalizing taken with
  | nil => simp [fresh, get?]
  | cons v vs ih =>
    obtain ⟨k, text⟩ := v
    rw [fresh, get?_cons]
    by_cases hk : k ∈ taken
    · rw [if_pos hk, ih]
      by_cases hname : name ∈ taken
      · rw [if_pos hname, if_pos hname]
      · have hne : k ≠ name := fun heq => hname (heq ▸ hk)
        rw [if_neg hname, if_neg hname, if_neg hne]
    · rw [if_neg hk, get?_cons, ih]
      by_cases heq : k = name
      · subst heq
        simp [hk]
      · simp [heq, Ne.symm heq]

end Variables

namespace EnvFile

/-! ### The definitions of a file -/

/-- The definitions of some lines, up to the first line that is malformed. -/
def definitionsOf (ls : List (List Char)) : List Definition :=
  ((ls.map definition?).takeWhile Option.isSome).filterMap Option.join

/-- The definitions of a file, up to the first line that is malformed. -/
def definitions (text : String) : List Definition := definitionsOf (logicalLines text)

/-- Definitions with their values.  In a value, a name stands for the variable that
the process has under it, or else for the first definition of the name before. -/
def assignments (vs : Variables) : List Definition → Variables
  | [] => []
  | d :: ds => (d.name, d.value vs) :: assignments (vs ++ [(d.name, d.value vs)]) ds

/-- The variables of a process with those that a file defines under new names. -/
def merged (vs : Variables) (text : String) : Variables :=
  vs ++ Variables.fresh vs.names (assignments vs (definitions text))

theorem definitionsOf_malformed {l : List Char} (h : definition? l = none)
    (ls : List (List Char)) : definitionsOf (l :: ls) = [] := by
  simp [definitionsOf, h]

theorem definitionsOf_blank {l : List Char} (h : definition? l = some none)
    (ls : List (List Char)) : definitionsOf (l :: ls) = definitionsOf ls := by
  simp [definitionsOf, h]

theorem definitionsOf_cons {l : List Char} {d : Definition} (h : definition? l = some (some d))
    (ls : List (List Char)) : definitionsOf (l :: ls) = d :: definitionsOf ls := by
  simp [definitionsOf, h]

/-! ### Values -/

/-- A value depends on what stands under the names in it. -/
theorem value_congr {vs ws : Variables} (h : ∀ name, vs.get? name = ws.get? name)
    (d : Definition) : d.value vs = d.value ws := by
  have htext : ∀ p : Piece, p.text vs = p.text ws := by
    intro p
    cases p with
    | char c => rfl
    | «variable» name => rw [Piece.text, Piece.text, h name]
  unfold Definition.value
  simp only [htext]

theorem assignments_congr {vs ws : Variables} (h : ∀ name, vs.get? name = ws.get? name)
    (ds : List Definition) : assignments vs ds = assignments ws ds := by
  induction ds generalizing vs ws with
  | nil => rfl
  | cons d ds ih =>
    have happend : ∀ name, Variables.get? name (vs ++ [(d.name, d.value ws)]) =
        Variables.get? name (ws ++ [(d.name, d.value ws)]) := by
      intro name
      rw [Variables.get?_append, Variables.get?_append, h name]
    rw [assignments, assignments, value_congr h d, ih happend]

/-- A definition of a name that is there already changes no later value. -/
theorem assignments_append_of_mem {vs : Variables} {name : String} (h : name ∈ vs.names)
    (value : String) (ds : List Definition) :
    assignments (vs ++ [(name, value)]) ds = assignments vs ds := by
  refine assignments_congr (fun other => ?_) ds
  by_cases hother : other ∈ vs.names
  · exact Variables.get?_append_of_mem hother _
  · have hne : name ≠ other := fun heq => hother (heq ▸ h)
    rw [Variables.get?_append, Variables.get?_cons, if_neg hne]
    exact Option.or_none

/-! ### Loading -/

/-- **What loading some lines leaves**: the variables that were there, and the
definitions whose names are new. -/
theorem loadLines_eq (vs : Variables) (ls : List (List Char)) :
    loadLines vs ls = vs ++ Variables.fresh vs.names (assignments vs (definitionsOf ls)) := by
  induction ls generalizing vs with
  | nil => exact (List.append_nil vs).symm
  | cons l ls ih =>
    rw [loadLines]
    cases hl : definition? l with
    | none =>
      rw [definitionsOf_malformed hl]
      exact (List.append_nil vs).symm
    | some line =>
      cases line with
      | none =>
        rw [definitionsOf_blank hl]
        exact ih vs
      | some d =>
        show loadLines (vs.define d.name (d.value vs)) ls = _
        rw [definitionsOf_cons hl, assignments, Variables.fresh, Variables.define_eq]
        by_cases hname : d.name ∈ vs.names
        · -- the name is taken: nothing is added, now or later
          rw [if_pos hname, if_pos hname, ih, assignments_append_of_mem hname]
        · -- the name is new, and taken from here on
          rw [if_neg hname, if_neg hname, ih, Variables.names_append, List.append_assoc]
          rfl

/-- **What loading a file leaves.** -/
theorem load_eq_merged (vs : Variables) (text : String) : load vs text = merged vs text :=
  loadLines_eq vs (logicalLines text)

/-- **The process counts before the file, and in the file the first definition of a
name.** -/
theorem get?_merged (vs : Variables) (text name : String) :
    (merged vs text).get? name =
      (vs.get? name).or ((assignments vs (definitions text)).get? name) := by
  rw [merged, Variables.get?_append, Variables.get?_fresh]
  by_cases hname : name ∈ vs.names
  · obtain ⟨held, hheld⟩ := Option.isSome_iff_exists.1 ((Variables.isSome_get? vs name).2 hname)
    rw [hheld]
    rfl
  · rw [if_neg hname]

end EnvFile

end SearchClient
