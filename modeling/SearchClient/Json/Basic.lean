/-!
# JSON values

Values as documents hold them.  Numbers are whole numbers or decimals with a
point, kept as they are written.  The members of an object are kept in
ascending order of their keys, each key once; `Members.insert` keeps that
order, and `Json.Sorted` says it of a value to every depth.

## Main definitions

* `Json` — JSON values.
* `Members.get?`, `Members.insert`, `Members.Ordered` — the members of an object.
* `Json.ofMembers` — an object of members in any order.
* `Json.Sorted` — values whose objects are ordered.
-/

namespace SearchClient

/-- A JSON value. -/
inductive Json
  /-- The value `null`. -/
  | null
  /-- A truth value. -/
  | bool (b : Bool)
  /-- A whole number. -/
  | int (n : Int)
  /-- The number `mantissa · 10 ^ -places`, written with a point. -/
  | decimal (mantissa : Int) (places : Nat)
  /-- A string. -/
  | string (s : String)
  /-- A list of values. -/
  | array (elements : List Json)
  /-- An object: members under their keys. -/
  | object (members : List (String × Json))
  deriving Repr, Inhabited

/-- The members of an object, in ascending order of their keys. -/
abbrev Members := List (String × Json)

namespace Members

/-- The value under a key. -/
def get? (key : String) : Members → Option Json
  | [] => none
  | (k, v) :: ms => if k = key then some v else get? key ms

/-- The members with `value` under `key`; what was there is replaced. -/
def insert (key : String) (value : Json) : Members → Members
  | [] => [(key, value)]
  | (k, v) :: ms =>
    if key < k then (key, value) :: (k, v) :: ms
    else if k = key then (key, value) :: ms
    else (k, v) :: insert key value ms

/-- The members given in any order; of two with the same key the later one
counts. -/
def ofList (ms : List (String × Json)) : Members :=
  ms.foldl (fun acc m => insert m.1 m.2 acc) []

/-- The keys, in order. -/
def keys (ms : Members) : List String := ms.map Prod.fst

/-- The keys are in strictly ascending order. -/
def Ordered (ms : Members) : Prop := ms.keys.Pairwise (· < ·)

@[simp] theorem get?_nil (key : String) : get? key [] = none := rfl

theorem get?_cons (key k : String) (v : Json) (ms : Members) :
    get? key ((k, v) :: ms) = if k = key then some v else get? key ms := rfl

@[simp] theorem insert_nil (key : String) (v : Json) : insert key v [] = [(key, v)] := rfl

/-- What was put under a key is found there, and nothing else changes. -/
theorem get?_insert (key other : String) (v : Json) (ms : Members) :
    get? other (insert key v ms) = if other = key then some v else get? other ms := by
  induction ms with
  | nil => grind [insert, get?]
  | cons m ms ih => grind [insert, get?]

theorem mem_keys_insert {key k : String} {v : Json} {ms : Members}
    (h : k ∈ keys (insert key v ms)) : k = key ∨ k ∈ keys ms := by
  induction ms with
  | nil => simp_all [keys]
  | cons m ms ih => grind [insert, keys]

/-- Putting a value under a key keeps the order. -/
theorem Ordered.insert {ms : Members} (h : ms.Ordered) (key : String) (v : Json) :
    (Members.insert key v ms).Ordered := by
  induction ms with
  | nil => simp [Ordered, keys]
  | cons m ms ih =>
    obtain ⟨k, w⟩ := m
    have hk : ∀ x ∈ keys ms, k < x := by
      simpa [keys] using (List.pairwise_cons.1 h).1
    have hms : Ordered ms := (List.pairwise_cons.1 h).2
    unfold Members.insert
    split
    · rename_i hlt
      refine List.pairwise_cons.2 ⟨fun x hx => ?_, h⟩
      rcases List.mem_cons.1 hx with rfl | hx
      · exact hlt
      · exact String.lt_trans hlt (hk x hx)
    · split
      · rename_i heq
        subst heq
        exact List.pairwise_cons.2 ⟨hk, hms⟩
      · rename_i hlt hne
        refine List.pairwise_cons.2 ⟨fun x hx => ?_, ih hms⟩
        rcases mem_keys_insert hx with rfl | hx
        · exact Std.lt_of_le_of_ne (String.not_lt.1 hlt) hne
        · exact hk x hx

end Members

namespace Json

/-- An object of members in any order. -/
def ofMembers (ms : List (String × Json)) : Json := .object (Members.ofList ms)

/-- Whether the value is `null`. -/
def isNull : Json → Bool
  | .null => true
  | _ => false

mutual

/-- Every object in the value has its members in ascending order. -/
def Sorted : Json → Prop
  | .array vs => AllSorted vs
  | .object ms => Members.Ordered ms ∧ MembersSorted ms
  | _ => True

/-- `Sorted` for every element of a list. -/
def AllSorted : List Json → Prop
  | [] => True
  | v :: vs => v.Sorted ∧ AllSorted vs

/-- `Sorted` for the value of every member. -/
def MembersSorted : List (String × Json) → Prop
  | [] => True
  | (_, v) :: ms => v.Sorted ∧ MembersSorted ms

end

end Json

end SearchClient
