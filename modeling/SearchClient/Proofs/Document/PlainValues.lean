import SearchClient.Proofs.Document.Edits

/-!
# Values of new documents

In a new document every field holds the value that was given to it last, whatever kind
of value that is.  Getting the field is another matter: a document does not know
whether it is new, and an object in a field is taken for a change.  So a field is got
back exactly if it holds no object.  Of an object there comes back at most a part.

## Main definitions

* `Draft.newDocument` — the document that comes of giving values to fields.
* `lastGiven?`, `held?` — the value given last to a field, and what the field holds.

## Main results

* `Document.get_ne_object` — an object is never got back as it is.
* `Draft.get_newDocument` — **the fields of a new document that are got back.**
* `Draft.get_enclosedPrice` — a field that is not.
-/

namespace SearchClient

/-! ### Parts of objects -/

namespace Members

theorem mem_of_get? {ms : Members} {key : String} {v : Json} (h : ms.get? key = some v) :
    (key, v) ∈ ms := by
  induction ms with
  | nil => cases h
  | cons m ms ih =>
    obtain ⟨k, w⟩ := m
    rw [get?_cons] at h
    by_cases hk : k = key
    · rw [if_pos hk, Option.some.injEq] at h
      rw [hk, h]
      exact List.mem_cons_self
    · rw [if_neg hk] at h
      exact List.mem_cons_of_mem _ (ih h)

/-- A member is smaller than its object. -/
theorem ne_object_of_get? {ms : Members} {key : String} {v : Json} (h : ms.get? key = some v) :
    v ≠ .object ms := by
  have hmem := List.sizeOf_lt_of_mem (mem_of_get? h)
  rintro rfl
  rw [Prod.mk.sizeOf_spec, Json.object.sizeOf_spec] at hmem
  omega

end Members

namespace Document

theorem get_of_not_object {d : Document} {f : String}
    (h : ∀ changes, d.getRaw f ≠ some (.object changes)) : d.get f = .ok (d.getRaw f) := by
  unfold get
  split
  · next changes heq => exact absurd heq (h changes)
  · rfl

theorem get_of_object {d : Document} {f : String} {changes : Members}
    (h : d.getRaw f = some (.object changes)) :
    d.get f =
      match Modifier.all.findSome? fun m => valueUnder? m changes with
      | some v => .ok (some v)
      | none => .error (.noValue f) := by
  cases hfirst : Modifier.all.findSome? fun m => valueUnder? m changes with
  | none => simp [get, h, hfirst]
  | some v => simp [get, h, hfirst]

/-- **An object is never got back as it is.** -/
theorem get_ne_object {d : Document} {f : String} {changes : Members}
    (h : d.getRaw f = some (.object changes)) : d.get f ≠ .ok (some (.object changes)) := by
  rw [get_of_object h]
  cases hfirst : Modifier.all.findSome? fun m => valueUnder? m changes with
  | none => rintro ⟨⟩
  | some v =>
    intro heq
    obtain rfl : v = .object changes := Option.some.inj (Except.ok.inj heq)
    obtain ⟨m, -, hm⟩ := List.exists_of_findSome?_eq_some hfirst
    obtain ⟨hget, -⟩ := Option.filter_eq_some_iff.1 hm
    exact Members.ne_object_of_get? hget rfl

end Document

/-! ### New documents -/

/-- The value that was given last to a field. -/
def lastGiven? (given : List (String × Json)) (f : String) : Option Json :=
  given.reverse.findSome? fun g => if f = g.1 then some g.2 else none

/-- What a field of a new document holds after values were given to some fields. -/
def held? (idField : String) (id : Json) (given : List (String × Json)) (f : String) :
    Option Json :=
  (lastGiven? given f).or (if f = idField then some id else none)

namespace Draft

/-- The document that comes of giving values to fields. -/
def newDocument (idField : String) (id : Json) (given : List (String × Json)) : Document :=
  ((start .new idField id).run (given.map fun g => .set g.1 g.2)).finish

/-- A new document takes every value as it is. -/
theorem lastEffect?_set (given : List (String × Json)) (f : String) :
    lastEffect? .new (given.map fun g => .set g.1 g.2) f = lastGiven? given f := by
  unfold lastEffect? lastGiven?
  rw [← List.map_reverse, List.findSome?_map]
  rfl

theorem getRaw_newDocument (idField : String) (id : Json) (given : List (String × Json))
    (f : String) : (newDocument idField id given).getRaw f = held? idField id given f := by
  unfold newDocument held?
  rw [getRaw_run, lastEffect?_set]

/-- **The fields of a new document that are got back.**  Every field holds the value that
was given to it last, and is got back with it, or as missing, exactly if that is no
object.  In place of an object there comes the first member of it that is under the name
of a modifier and is not `null`, or else the error that there is none. -/
theorem get_newDocument (idField : String) (id : Json) (given : List (String × Json))
    (f : String) :
    (newDocument idField id given).getRaw f = held? idField id given f ∧
    ((newDocument idField id given).get f = .ok (held? idField id given f) ↔
      ∀ changes, held? idField id given f ≠ some (.object changes)) ∧
    ∀ changes, held? idField id given f = some (.object changes) →
      (newDocument idField id given).get f =
        match Modifier.all.findSome? fun m => Document.valueUnder? m changes with
        | some v => .ok (some v)
        | none => .error (.noValue f) := by
  have hraw := getRaw_newDocument idField id given f
  refine ⟨hraw, ⟨fun hget changes hheld => ?_, fun hnot => ?_⟩, fun changes hheld => ?_⟩
  · rw [hheld] at hget hraw
    exact Document.get_ne_object hraw hget
  · rw [← hraw] at hnot ⊢
    exact Document.get_of_not_object hnot
  · exact Document.get_of_object (hraw.trans hheld)

/-- A price that is given with its currency. -/
def enclosedPrice : List (String × Json) :=
  [("price", .object [("amount", .int 5), ("currency", .string "EUR")])]

/-- The document holds the price, and getting it is an error. -/
theorem get_enclosedPrice :
    held? "id" (.int 1) enclosedPrice "price" =
        some (.object [("amount", .int 5), ("currency", .string "EUR")]) ∧
      (newDocument "id" (.int 1) enclosedPrice).get "price" = .error (.noValue "price") ∧
      (newDocument "id" (.int 1) enclosedPrice).get "price" ≠
        .ok (held? "id" (.int 1) enclosedPrice "price") := by
  refine ⟨rfl, rfl, ?_⟩
  rintro ⟨⟩

end Draft

end SearchClient
