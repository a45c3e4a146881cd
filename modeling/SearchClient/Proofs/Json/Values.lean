import Mathlib.Data.Nat.Notation
import SearchClient.Json.Basic

/-!
# Values that are written exactly

A value is *exact* if its objects are in order and all its numbers are whole numbers of
64 bits, with a sign or without one.  Exact values make exact objects, whatever is put
into them.

## Main definitions

* `Json.Fits` — whole numbers of 64 bits.
* `Json.Whole`, `Json.Exact` — values with such numbers only, in order to every depth.

## Main results

* `Json.value_induction` — induction over a value and the values in it.
* `Json.exact_array`, `Json.exact_object` — exact values from exact ones.
* `Json.Exact.insert` — a member put into an exact object.
-/

namespace SearchClient

namespace Json

/-! ### Induction over values -/

/-- **Induction over a value**: a list or an object has the property if all values in it
have it. -/
@[elab_as_elim]
theorem value_induction {P : Json → Prop} (null : P .null) (bool : ∀ b, P (.bool b))
    (int : ∀ n, P (.int n)) (decimal : ∀ m p, P (.decimal m p)) (string : ∀ s, P (.string s))
    (array : ∀ vs, (∀ v ∈ vs, P v) → P (.array vs))
    (object : ∀ ms : List (String × Json), (∀ m ∈ ms, P m.2) → P (.object ms)) : ∀ v, P v
  | .null => null
  | .bool b => bool b
  | .int n => int n
  | .decimal m p => decimal m p
  | .string s => string s
  | .array vs => array vs fun v _hv =>
      value_induction null bool int decimal string array object v
  | .object ms => object ms fun m _hm =>
      value_induction null bool int decimal string array object m.2
termination_by v => sizeOf v
decreasing_by
  · have hlt := List.sizeOf_lt_of_mem _hv
    rw [Json.array.sizeOf_spec]
    omega
  · have hlt := List.sizeOf_lt_of_mem _hm
    have hmember : sizeOf m = 1 + sizeOf m.1 + sizeOf m.2 := rfl
    rw [Json.object.sizeOf_spec]
    omega

/-! ### Exact values -/

/-- The whole numbers of 64 bits, with a sign or without one. -/
def Fits (n : Int) : Prop := -9223372036854775808 ≤ n ∧ n ≤ 18446744073709551615

instance (n : Int) : Decidable (Fits n) :=
  inferInstanceAs (Decidable (_ ∧ _))

mutual

/-- All numbers in the value are whole numbers of 64 bits. -/
def Whole : Json → Prop
  | .int n => Fits n
  | .decimal _ _ => False
  | .array vs => AllWhole vs
  | .object ms => MembersWhole ms
  | _ => True

/-- `Whole` for every element of a list. -/
def AllWhole : List Json → Prop
  | [] => True
  | v :: vs => v.Whole ∧ AllWhole vs

/-- `Whole` for the value of every member. -/
def MembersWhole : List (String × Json) → Prop
  | [] => True
  | (_, v) :: ms => v.Whole ∧ MembersWhole ms

end

/-- All objects in the value are in order, and all numbers are whole numbers of 64
bits. -/
structure Exact (v : Json) : Prop where
  /-- The objects are in order. -/
  sorted : v.Sorted
  /-- The numbers are whole. -/
  whole : v.Whole

theorem allWhole_iff {vs : List Json} : AllWhole vs ↔ ∀ v ∈ vs, v.Whole := by
  induction vs with
  | nil => simp [AllWhole]
  | cons v vs ih => rw [AllWhole, ih, List.forall_mem_cons]

theorem membersWhole_iff {ms : List (String × Json)} : MembersWhole ms ↔ ∀ m ∈ ms, m.2.Whole := by
  induction ms with
  | nil => simp [MembersWhole]
  | cons m ms ih => rw [MembersWhole, ih, List.forall_mem_cons]

theorem allSorted_iff {vs : List Json} : AllSorted vs ↔ ∀ v ∈ vs, v.Sorted := by
  induction vs with
  | nil => simp [AllSorted]
  | cons v vs ih => rw [AllSorted, ih, List.forall_mem_cons]

theorem membersSorted_iff {ms : List (String × Json)} :
    MembersSorted ms ↔ ∀ m ∈ ms, m.2.Sorted := by
  induction ms with
  | nil => simp [MembersSorted]
  | cons m ms ih => rw [MembersSorted, ih, List.forall_mem_cons]

theorem exact_array {vs : List Json} : Exact (.array vs) ↔ ∀ v ∈ vs, v.Exact := by
  constructor
  · rintro ⟨hsorted, hwhole⟩ v hv
    rw [Sorted, allSorted_iff] at hsorted
    rw [Whole, allWhole_iff] at hwhole
    exact ⟨hsorted v hv, hwhole v hv⟩
  · intro h
    refine ⟨?_, ?_⟩
    · rw [Sorted, allSorted_iff]
      exact fun v hv => (h v hv).sorted
    · rw [Whole, allWhole_iff]
      exact fun v hv => (h v hv).whole

theorem exact_object {ms : List (String × Json)} :
    Exact (.object ms) ↔ Members.Ordered ms ∧ ∀ m ∈ ms, m.2.Exact := by
  constructor
  · rintro ⟨hsorted, hwhole⟩
    rw [Sorted, membersSorted_iff] at hsorted
    rw [Whole, membersWhole_iff] at hwhole
    exact ⟨hsorted.1, fun m hm => ⟨hsorted.2 m hm, hwhole m hm⟩⟩
  · rintro ⟨hordered, h⟩
    refine ⟨?_, ?_⟩
    · rw [Sorted, membersSorted_iff]
      exact ⟨hordered, fun m hm => (h m hm).sorted⟩
    · rw [Whole, membersWhole_iff]
      exact fun m hm => (h m hm).whole

theorem exact_null : Exact .null := ⟨by simp [Sorted], by simp [Whole]⟩

theorem exact_string (s : String) : Exact (.string s) := ⟨by simp [Sorted], by simp [Whole]⟩

theorem exact_int {n : Int} (h : Fits n) : Exact (.int n) :=
  ⟨by simp [Sorted], by simpa [Whole] using h⟩

/-- An object with one member. -/
theorem exact_singleton (key : String) {v : Json} (h : v.Exact) : Exact (.object [(key, v)]) := by
  refine exact_object.2 ⟨List.pairwise_singleton _ _, fun m hm => ?_⟩
  rw [List.mem_singleton.1 hm]
  exact h

end Json

namespace Members

/-- A key above all others is put at the end. -/
theorem insert_of_lt {key : String} {v : Json} {ms : Members} (h : ∀ k ∈ keys ms, k < key) :
    insert key v ms = ms ++ [(key, v)] := by
  induction ms with
  | nil => rfl
  | cons m ms ih =>
    have hm : m.1 < key := h m.1 List.mem_cons_self
    have hms := ih fun k hk => h k (List.mem_cons_of_mem m.1 hk)
    rw [insert, if_neg (String.lt_asymm hm), if_neg (String.ne_of_lt hm), hms]
    rfl

/-- Members in order are put together as they are. -/
theorem ofList_of_ordered {ms : Members} (h : ms.Ordered) : ofList ms = ms := by
  -- the members so far and those to come are in order
  have hfold : ∀ (acc : Members), Ordered (acc ++ ms) →
      ms.foldl (fun acc m => insert m.1 m.2 acc) acc = acc ++ ms := by
    clear h
    induction ms with
    | nil => exact fun acc _ => (List.append_nil acc).symm
    | cons m ms ih =>
      intro acc hacc
      have hlt : ∀ k ∈ keys acc, k < m.1 := by
        rw [Ordered, keys, List.map_append, List.pairwise_append] at hacc
        exact fun k hk => hacc.2.2 k hk m.1 List.mem_cons_self
      rw [List.append_cons] at hacc
      rw [List.foldl_cons, insert_of_lt hlt, ih _ hacc, ← List.append_cons]
  exact hfold [] h

/-- What an object holds after a value was put into it. -/
theorem mem_insert {key : String} {v : Json} {ms : Members} {m : String × Json}
    (h : m ∈ insert key v ms) : m = (key, v) ∨ m ∈ ms := by
  induction ms with
  | nil => simpa using h
  | cons n ms ih => grind [insert]

end Members

/-- An exact value put into an exact object. -/
theorem Json.Exact.insert {ms : Members} (h : Exact (.object ms)) (key : String) {v : Json}
    (hv : v.Exact) : Exact (.object (Members.insert key v ms)) := by
  rw [exact_object] at h ⊢
  refine ⟨h.1.insert key v, fun m hm => ?_⟩
  rcases Members.mem_insert hm with rfl | hm
  · exact hv
  · exact h.2 m hm

end SearchClient
