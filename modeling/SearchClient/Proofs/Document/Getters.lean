import SearchClient.Proofs.Document.Changes

/-!
# The getters of a document

A field can be read in three ways: as it is, under one modifier, or under whichever
modifier comes first.  The two that look under modifiers do so each on its own, but they
agree, whatever the document holds: in an object with any members, getting the field finds
the value under the modifier of least rank that has one, and the field has no value exactly
if no modifier has one.  A member that is `null` is no value for either of them.

## Main definitions

* `Modifier.rank` — the place of a modifier in the order of precedence.

## Main results

* `Modifier.findSome?_all_eq_some_iff` — the first modifier with a value.
* `Document.getters_agree` — **getting a field and getting it under its modifiers.**
-/

namespace SearchClient

/-! ### Precedence -/

namespace Modifier

/-- The place of a modifier in the order of precedence. -/
def rank : Modifier → Nat
  | .add => 0
  | .set => 1
  | .remove => 2
  | .removeRegex => 3
  | .inc => 4

theorem pairwise_rank_all : all.Pairwise fun m n => m.rank < n.rank := by
  decide

/-- **The first modifier with a value** is one with a value while none of lower rank has
one. -/
theorem findSome?_all_eq_some_iff {α : Type} {value? : Modifier → Option α} {v : α} :
    all.findSome? value? = some v ↔
      ∃ m, value? m = some v ∧ ∀ n, n.rank < m.rank → value? n = none := by
  have hpairwise := pairwise_rank_all
  rw [List.findSome?_eq_some_iff]
  constructor
  · rintro ⟨before, m, after, hall, hm, hbefore⟩
    refine ⟨m, hm, fun n hn => hbefore n ?_⟩
    have hmem : n ∈ before ++ m :: after := hall ▸ n.mem_all
    rw [hall, List.pairwise_append, List.pairwise_cons] at hpairwise
    obtain ⟨-, ⟨hafter, -⟩, -⟩ := hpairwise
    -- neither `m` itself nor what is behind it ranks below `m`
    rcases List.mem_append.1 hmem with hn' | hn'
    · exact hn'
    · rcases List.mem_cons.1 hn' with rfl | hn'
      · exact absurd hn (Nat.lt_irrefl _)
      · exact absurd hn (Nat.lt_asymm (hafter n hn'))
  · rintro ⟨m, hm, hbelow⟩
    obtain ⟨before, after, hall⟩ := List.append_of_mem m.mem_all
    rw [hall, List.pairwise_append] at hpairwise
    obtain ⟨-, -, hbefore⟩ := hpairwise
    exact ⟨before, m, after, hall, hm, fun n hn =>
      hbelow n (hbefore n hn m List.mem_cons_self)⟩

theorem findSome?_all_eq_none_iff {α : Type} {value? : Modifier → Option α} :
    all.findSome? value? = none ↔ ∀ m, value? m = none := by
  rw [List.findSome?_eq_none_iff]
  exact ⟨fun h m => h m m.mem_all, fun h m _ => h m⟩

end Modifier

/-! ### Reading a field -/

namespace Document

/-- A value under a modifier is the member under its name, which is not `null`. -/
theorem valueUnder?_eq_some_iff {m : Modifier} {changes : Members} {v : Json} :
    valueUnder? m changes = some v ↔ changes.get? m.name = some v ∧ v ≠ .null := by
  unfold valueUnder?
  rw [Option.filter_eq_some_iff, ← Json.isNull_eq_false_iff, Bool.not_eq_eq_eq_not, Bool.not_true]

theorem getModified_of_not_object {d : Document} {f : String}
    (h : ∀ changes, d.getRaw f ≠ some (.object changes)) (m : Modifier) :
    d.getModified f m = .error (.notAtomic f) := by
  unfold getModified
  split
  · next changes heq => exact absurd heq (h changes)
  · rfl

section Object

variable {d : Document} {f : String} {changes : Members}
  (h : d.getRaw f = some (.object changes))
include h

theorem getModified_eq_ok_iff {m : Modifier} {v : Json} :
    d.getModified f m = .ok v ↔ valueUnder? m changes = some v := by
  rw [getModified_of_object h]
  cases valueUnder? m changes <;> simp

theorem getModified_eq_error_iff {m : Modifier} :
    d.getModified f m = .error (.noModifierValue m f) ↔ valueUnder? m changes = none := by
  rw [getModified_of_object h]
  cases valueUnder? m changes <;> simp

theorem get_eq_ok_iff {v : Json} :
    d.get f = .ok (some v) ↔ (Modifier.all.findSome? fun m => valueUnder? m changes) = some v := by
  rw [get_of_object h]
  cases Modifier.all.findSome? fun m => valueUnder? m changes <;> simp

theorem get_eq_error_iff :
    d.get f = .error (.noValue f) ↔
      (Modifier.all.findSome? fun m => valueUnder? m changes) = none := by
  rw [get_of_object h]
  cases Modifier.all.findSome? fun m => valueUnder? m changes <;> simp

/-- Under a modifier there is a value, or there is the error that there is none. -/
theorem getModified_cases (m : Modifier) :
    (∃ v, d.getModified f m = .ok v) ∨ d.getModified f m = .error (.noModifierValue m f) := by
  rw [getModified_eq_error_iff h]
  simp only [getModified_eq_ok_iff h]
  cases valueUnder? m changes <;> simp

/-- Getting a field with an object gives a value, or the error that there is none. -/
theorem get_cases : (∃ v, d.get f = .ok (some v)) ∨ d.get f = .error (.noValue f) := by
  rw [get_eq_error_iff h]
  simp only [get_eq_ok_iff h]
  cases Modifier.all.findSome? fun m => valueUnder? m changes <;> simp

/-- The value of a field is the value under the modifier of least rank that has one. -/
theorem get_eq_ok_iff_getModified {v : Json} :
    d.get f = .ok (some v) ↔
      ∃ m, d.getModified f m = .ok v ∧
        ∀ n, n.rank < m.rank → d.getModified f n = .error (.noModifierValue n f) := by
  simp only [get_eq_ok_iff h, getModified_eq_ok_iff h, getModified_eq_error_iff h]
  exact Modifier.findSome?_all_eq_some_iff

/-- A field has no value exactly if no modifier has one. -/
theorem get_eq_error_iff_getModified :
    d.get f = .error (.noValue f) ↔
      ∀ m, d.getModified f m = .error (.noModifierValue m f) := by
  simp only [get_eq_error_iff h, getModified_eq_error_iff h]
  exact Modifier.findSome?_all_eq_none_iff

theorem getModified_ne_null (m : Modifier) : d.getModified f m ≠ .ok .null := by
  rw [Ne, getModified_eq_ok_iff h, valueUnder?_eq_some_iff]
  exact fun hnull => hnull.2 rfl

theorem get_ne_null : d.get f ≠ .ok (some .null) := by
  rw [Ne, get_eq_ok_iff_getModified h]
  rintro ⟨m, hm, -⟩
  exact getModified_ne_null h m hm

end Object

/-- **Getting a field and getting it under its modifiers.**  In a field with an object, the
value under a modifier is the member under its name, unless that is `null`; every other
outcome is the error that there is no such value.  Getting the field gives the value under
the modifier of least rank that has one, or the error that there is none, never `null`.  A
field without an object is got as it is, and under no modifier. -/
theorem getters_agree (d : Document) (f : String) :
    (∀ changes : Members, d.getRaw f = some (.object changes) →
      (∀ m v, d.getModified f m = .ok v ↔ changes.get? m.name = some v ∧ v ≠ .null) ∧
      (∀ m, (∃ v, d.getModified f m = .ok v) ∨
        d.getModified f m = .error (.noModifierValue m f)) ∧
      ((∃ v, d.get f = .ok (some v)) ∨ d.get f = .error (.noValue f)) ∧
      (∀ v, d.get f = .ok (some v) ↔
        ∃ m, d.getModified f m = .ok v ∧
          ∀ n, n.rank < m.rank → d.getModified f n = .error (.noModifierValue n f)) ∧
      (d.get f = .error (.noValue f) ↔
        ∀ m, d.getModified f m = .error (.noModifierValue m f)) ∧
      d.get f ≠ .ok (some .null) ∧ ∀ m, d.getModified f m ≠ .ok .null) ∧
    ((∀ changes, d.getRaw f ≠ some (.object changes)) →
      d.get f = .ok (d.getRaw f) ∧ ∀ m, d.getModified f m = .error (.notAtomic f)) := by
  constructor
  · intro changes h
    refine ⟨fun m v => ?_, getModified_cases h, get_cases h, fun v => get_eq_ok_iff_getModified h,
      get_eq_error_iff_getModified h, get_ne_null h, getModified_ne_null h⟩
    rw [getModified_eq_ok_iff h, valueUnder?_eq_some_iff]
  · intro h
    exact ⟨get_of_not_object h, getModified_of_not_object h⟩

/-- A new document whose price holds an object with several modifiers, one of them without
a value, and whose tags hold one that has a value under none. -/
def crowdedPrice : Document :=
  Draft.newDocument "id" (.int 1)
    [("price", .object [("add", .null), ("amount", .int 5), ("inc", .int 2), ("set", .int 3)]),
      ("tags", .object [("note", .int 4), ("remove", .null)])]

theorem getters_agree_crowdedPrice :
    crowdedPrice.get "price" = .ok (some (.int 3)) ∧
      crowdedPrice.getModified "price" .inc = .ok (.int 2) ∧
      crowdedPrice.getModified "price" .add = .error (.noModifierValue .add "price") ∧
      crowdedPrice.get "tags" = .error (.noValue "tags") ∧
      crowdedPrice.get "id" = .ok (some (.int 1)) ∧
      crowdedPrice.getModified "id" .set = .error (.notAtomic "id") := by
  obtain ⟨hmember, hmodified, -, hget, -⟩ := (getters_agree crowdedPrice "price").1 _ rfl
  obtain ⟨htags, -, -, -, hnone, -⟩ := (getters_agree crowdedPrice "tags").1 _ rfl
  obtain ⟨hid, hidModified⟩ := (getters_agree crowdedPrice "id").2 nofun
  have hadd : crowdedPrice.getModified "price" .add = .error (.noModifierValue .add "price") := rfl
  refine ⟨(hget _).2 ⟨.set, rfl, fun n hn => ?_⟩, (hmember .inc _).2 ⟨rfl, nofun⟩, hadd,
    hnone.2 fun m => ?_, hid, hidModified .set⟩
  · cases n with
    | add => exact hadd
    | _ => exact absurd hn (by decide)
  · cases m <;> rfl

end Document

end SearchClient
