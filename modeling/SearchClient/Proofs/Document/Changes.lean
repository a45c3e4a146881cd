import SearchClient.Proofs.Document.PlainValues

/-!
# Changes of updates

An edit of an update makes a change to the field that it names: giving the field a value
makes one, too, unless there is no value to give.  The field holds the last change that
was made to it and nothing of the changes before.  Getting the field gives the value of
the change, whatever value that is, even if it looks like a change itself; but no value
comes of a change that clears the field.

## Main definitions

* `Edit.change?`, `lastChange?` — the change that an edit makes, and the last one to a
  field.
* `Draft.update` — the update that a run of edits makes.

## Main results

* `lastEffect?_update` — the effects of edits are changes.
* `Document.get_of_change`, `Document.getModified_of_change` — a change is read back.
* `Draft.get_update` — **the last change to a field is what is read back.**
-/

namespace SearchClient

/-! ### Names of modifiers -/

theorem Modifier.name_inj {m n : Modifier} : m.name = n.name ↔ m = n := by
  cases m <;> cases n <;> decide

/-! ### Changes by edits -/

/-- The change that an edit of an update makes: the field, the modifier and the value.
Giving a field a value sets it, and giving it none changes nothing. -/
def Edit.change? : Edit → Option (String × Modifier × Json)
  | .set _ .null => none
  | .set f v => some (f, .set, v)
  | .add f v => some (f, .add, v)
  | .modify f m v => some (f, m, v)

/-- The change that an edit makes to one field. -/
def Edit.changeOf? (f : String) (e : Edit) : Option (Modifier × Json) :=
  e.change?.bind fun (g, m, v) => if f = g then some (m, v) else none

/-- The last change that edits make to a field. -/
def lastChange? (edits : List Edit) (f : String) : Option (Modifier × Json) :=
  edits.reverse.findSome? (Edit.changeOf? f)

/-- The object that holds a change, without its value if that is an empty list. -/
def heldChange (m : Modifier) (v : Json) : Json := .object [(m.name, v.orCleared)]

/-- The effect of an edit is the change that it makes. -/
theorem Edit.effect?_update (e : Edit) :
    e.effect? .update = e.change?.map fun (f, m, v) => (f, heldChange m v) := by
  cases e with
  | set f v => cases v <;> rfl
  | add f v => rfl
  | modify f m v => rfl

theorem Edit.effectOn?_update (f : String) (e : Edit) :
    e.effectOn? .update f = (e.changeOf? f).map fun (m, v) => heldChange m v := by
  unfold effectOn? changeOf?
  rw [effect?_update]
  cases e.change? with
  | none => rfl
  | some c =>
    obtain ⟨g, m, v⟩ := c
    by_cases hf : f = g <;> simp [hf]

/-- **What an edited field of an update holds is the last change to it.** -/
theorem lastEffect?_update (edits : List Edit) (f : String) :
    lastEffect? .update edits f = (lastChange? edits f).map fun (m, v) => heldChange m v := by
  unfold lastEffect? lastChange?
  rw [List.map_findSome?]
  exact congrArg (edits.reverse.findSome? ·) (funext (Edit.effectOn?_update f))

/-! ### Changes read back -/

namespace Document

/-- The one value of a change is found under its modifier, unless it is `null`. -/
theorem valueUnder?_singleton (m n : Modifier) (w : Json) :
    valueUnder? n [(m.name, w)] = if n = m ∧ w.isNull = false then some w else none := by
  unfold valueUnder?
  rw [Members.get?_cons, Members.get?_nil]
  by_cases hn : n = m
  · cases hw : w.isNull <;> simp [hn, hw, Option.filter]
  · have hname : m.name ≠ n.name := fun h => hn (Modifier.name_inj.1 h).symm
    simp [hn, hname]

/-- No other modifier has a value before it. -/
theorem findSome?_valueUnder?_singleton (m : Modifier) (w : Json) :
    (Modifier.all.findSome? fun n => valueUnder? n [(m.name, w)]) =
      if w.isNull = false then some w else none := by
  simp only [valueUnder?_singleton]
  cases m <;> cases w.isNull <;> rfl

variable {d : Document} {f : String}

theorem getModified_of_object {changes : Members} (h : d.getRaw f = some (.object changes))
    (n : Modifier) :
    d.getModified f n =
      match valueUnder? n changes with
      | some v => .ok v
      | none => .error (.noModifierValue n f) := by
  cases hunder : valueUnder? n changes with
  | none => simp [getModified, h, hunder]
  | some v => simp [getModified, h, hunder]

variable {m : Modifier} {w : Json} (h : d.getRaw f = some (.object [(m.name, w)]))
include h

/-- Getting a field with a change gives the value of the change. -/
theorem get_of_change :
    d.get f = if w.isNull = false then .ok (some w) else .error (.noValue f) := by
  rw [get_of_object h, findSome?_valueUnder?_singleton]
  cases w.isNull <;> rfl

/-- A change has a value under its own modifier only. -/
theorem getModified_of_change (n : Modifier) :
    d.getModified f n =
      if n = m ∧ w.isNull = false then .ok w else .error (.noModifierValue n f) := by
  rw [getModified_of_object h, valueUnder?_singleton]
  by_cases hown : n = m ∧ w.isNull = false
  · rw [if_pos hown, if_pos hown]
  · rw [if_neg hown, if_neg hown]

end Document

theorem Json.isNull_eq_false_iff {v : Json} : v.isNull = false ↔ v ≠ .null := by
  cases v <;> simp [isNull]

namespace Draft

/-- The update that a run of edits makes. -/
def update (idField : String) (id : Json) (edits : List Edit) : Document :=
  ((start .update idField id).run edits).finish

theorem getRaw_update (idField : String) (id : Json) (edits : List Edit) (f : String) :
    (update idField id edits).getRaw f =
      ((lastChange? edits f).map fun (m, v) => heldChange m v).or
        (if f = idField then some id else none) := by
  unfold update
  rw [getRaw_run, lastEffect?_update]

/-- **The last change to a field is what is read back.**  The field holds the modifier with
the value, `null` in place of an empty list.  If there is a value, it is what getting the
field gives, and what it has under the modifier; if there is none, both are errors.  Under
any other modifier there is no value, so nothing is left of the changes before. -/
theorem get_update (idField : String) (id : Json) {edits : List Edit} {f : String}
    {m : Modifier} {v : Json} (h : lastChange? edits f = some (m, v)) :
    (update idField id edits).getRaw f = some (.object [(m.name, v.orCleared)]) ∧
    (v.orCleared ≠ .null →
      (update idField id edits).get f = .ok (some v.orCleared) ∧
      (update idField id edits).getModified f m = .ok v.orCleared) ∧
    (v.orCleared = .null →
      (update idField id edits).get f = .error (.noValue f) ∧
      (update idField id edits).getModified f m = .error (.noModifierValue m f)) ∧
    ∀ n, n ≠ m →
      (update idField id edits).getModified f n = .error (.noModifierValue n f) := by
  have hraw : (update idField id edits).getRaw f = some (.object [(m.name, v.orCleared)]) := by
    rw [getRaw_update, h]
    rfl
  have hget := Document.get_of_change hraw
  have hmodified := Document.getModified_of_change hraw
  refine ⟨hraw, ?_, ?_, ?_⟩
  · intro hvalue
    have hsome := Json.isNull_eq_false_iff.2 hvalue
    rw [hget, hmodified, if_pos hsome, if_pos ⟨rfl, hsome⟩]
    exact ⟨rfl, rfl⟩
  · intro hnull
    have hnone : ¬v.orCleared.isNull = false := by
      rw [hnull]
      decide
    rw [hget, hmodified, if_neg hnone, if_neg fun hboth => hnone hboth.2]
    exact ⟨rfl, rfl⟩
  · intro n hn
    rw [hmodified, if_neg fun hboth => hn hboth.1]

/-- The price is added to and then set to an object with names of modifiers, which `null`
does not take back; the views are counted and then cleared. -/
def pricedAnew : List Edit :=
  [.add "price" (.int 1), .modify "views" .inc (.int 1),
    .set "price" (.object [("add", .int 5), ("set", .null)]), .set "price" .null,
    .modify "views" .remove (.array [])]

theorem get_update_pricedAnew :
    lastChange? pricedAnew "price" =
        some (.set, .object [("add", .int 5), ("set", .null)]) ∧
      (update "id" (.int 7) pricedAnew).get "price" =
        .ok (some (.object [("add", .int 5), ("set", .null)])) ∧
      (update "id" (.int 7) pricedAnew).getModified "price" .add =
        .error (.noModifierValue .add "price") ∧
      lastChange? pricedAnew "views" = some (.remove, .array []) ∧
      (update "id" (.int 7) pricedAnew).get "views" = .error (.noValue "views") ∧
      (update "id" (.int 7) pricedAnew).getModified "views" .inc =
        .error (.noModifierValue .inc "views") := by
  have hprice : lastChange? pricedAnew "price" =
      some (.set, .object [("add", .int 5), ("set", .null)]) := rfl
  have hviews : lastChange? pricedAnew "views" = some (.remove, .array []) := rfl
  obtain ⟨-, hvalue, -, hpriceOther⟩ := get_update "id" (.int 7) hprice
  obtain ⟨-, -, hcleared, hviewsOther⟩ := get_update "id" (.int 7) hviews
  refine ⟨hprice, (hvalue ?_).1, hpriceOther .add (by decide), hviews, (hcleared rfl).1,
    hviewsOther .inc (by decide)⟩
  rintro ⟨⟩

end Draft

end SearchClient
