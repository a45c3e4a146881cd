import SearchClient.Proofs.Json.Parts

/-!
# Written values are read back

The text of a value without decimals is read back as the value, by induction over the
value: every part is read back, whatever may follow it.  The members of every object are
listed in the order in which the object has them, so that nothing changes when the
members of an exact value are put in order.

## Main definitions

* `ReadsBack` — values that are read back from their texts.

## Main results

* `readsBack_of_whole` — **values without decimals are read back.**
* `listing?_render`, `ofText?_render` — the same for whole texts.
* `le_toNat_of_mem_chars` — no control character is written.
-/

namespace SearchClient.Json

open Decimal

/-! ### Values -/

/-- A member as it is written. -/
def memberText (m : String × Json) : List Char := quote m.1 ++ ':' :: chars m.2

theorem elementChars_false (vs : List Json) :
    elementChars false vs = vs.flatMap fun v => ',' :: chars v := by
  induction vs with
  | nil => rfl
  | cons v vs ih =>
    rw [elementChars, ih, List.flatMap_cons]
    rfl

theorem elementChars_true (vs : List Json) : elementChars true vs = written chars vs := by
  cases vs with
  | nil => rfl
  | cons v vs =>
    rw [elementChars, elementChars_false]
    rfl

theorem memberChars_false (ms : List (String × Json)) :
    memberChars false ms = ms.flatMap fun m => ',' :: memberText m := by
  induction ms with
  | nil => rfl
  | cons m ms ih =>
    rw [memberChars, ih, List.flatMap_cons]
    rfl

theorem memberChars_true (ms : List (String × Json)) :
    memberChars true ms = written memberText ms := by
  cases ms with
  | nil => rfl
  | cons m ms =>
    rw [memberChars, memberChars_false]
    rfl

/-- A text after its closing quotation mark is put together in one way. -/
theorem quote_append (s : String) (rest : List Char) :
    quote s ++ rest = '"' :: (s.toList.flatMap escape ++ '"' :: rest) := by
  simp [quote]

theorem opens_quote (s : String) (rest : List Char) : Opens (quote s ++ rest) :=
  ⟨_, _, quote_append s rest, rfl, by decide, by decide⟩

/-- What a number starts with. -/
theorem signed_eq_cons (n : Int) : ∃ c cs, signed n = c :: cs ∧ (c = '-' ∨ IsDigit c) := by
  cases n with
  | ofNat n =>
    obtain ⟨d, ds, hn, hlt, -⟩ := numeral_eq_cons n
    exact ⟨_, _, hn, .inr (isDigit_digit hlt)⟩
  | negSucc n => exact ⟨_, _, rfl, .inl rfl⟩

theorem isBlank_of_number {c : Char} (h : c = '-' ∨ IsDigit c) : isBlank c = false := by
  simp only [isBlank, Bool.or_eq_false_iff, beq_eq_false_iff_ne]
  refine ⟨⟨⟨?_, ?_⟩, ?_⟩, ?_⟩
  all_goals
    rintro rfl
    exact absurd h (by decide)

theorem opens_signed (n : Int) : Opens (signed n) := by
  obtain ⟨c, cs, hn, hc⟩ := signed_eq_cons n
  refine ⟨c, cs, hn, isBlank_of_number hc, ?_, ?_⟩
  · rintro rfl
    exact absurd hc (by decide)
  · rintro rfl
    exact absurd hc (by decide)

/-- A value that is no decimal starts with no blank, and with no closing bracket. -/
theorem opens_chars {v : Json} (h : v.Whole) : Opens v.chars := by
  cases v with
  | null => exact ⟨_, _, rfl, rfl, by decide, by decide⟩
  | bool b => cases b <;> exact ⟨_, _, rfl, rfl, by decide, by decide⟩
  | int n => exact opens_signed n
  | decimal m p => simp [Whole] at h
  | string s => simpa [chars] using opens_quote s []
  | array vs => exact ⟨_, _, rfl, rfl, by decide, by decide⟩
  | object ms => exact ⟨_, _, rfl, rfl, by decide, by decide⟩

/-- A member is read back if its value is. -/
theorem readMember?_memberText {read : Reader Json} {m : String × Json} {rest : List Char}
    (h : read (m.2.chars ++ rest) = some (m.2, rest)) :
    readMember? read (memberText m ++ rest) = some (m, rest) := by
  rw [memberText, List.append_assoc, quote_append, List.cons_append, readMember?,
    skipBlanks_cons rfl]
  simp [readString?_quote, skipBlanks_cons (by decide : isBlank ':' = false), h]

/-- Values that are read back from their texts. -/
def ReadsBack (v : Json) : Prop :=
  ∀ depth rest, v.chars.length ≤ depth → Follows rest →
    readValue? depth (v.chars ++ rest) = some (v, rest)

theorem readsBack_string (s : String) : ReadsBack (.string s) := by
  intro depth rest hdepth hrest
  rw [chars, quote_append]
  cases depth with
  | zero => simp [chars, quote] at hdepth
  | succ depth =>
    rw [readValue?, skipBlanks_cons rfl]
    simp [readString?_quote]

theorem readsBack_int {n : Int} (h : Fits n) : ReadsBack (.int n) := by
  intro depth rest hdepth hrest
  rw [chars] at hdepth ⊢
  obtain ⟨c, cs, hn, hc⟩ := signed_eq_cons n
  have hread := readNumber?_signed h hrest
  rw [hn] at hdepth hread ⊢
  cases depth with
  | zero => simp at hdepth
  | succ depth =>
    have hother : c ≠ '"' ∧ c ≠ '[' ∧ c ≠ '\x7b' ∧ c ≠ 'n' ∧ c ≠ 't' ∧ c ≠ 'f' := by
      refine ⟨?_, ?_, ?_, ?_, ?_, ?_⟩
      all_goals
        rintro rfl
        exact absurd hc (by decide)
    rw [List.cons_append, readValue?, skipBlanks_cons (isBlank_of_number hc), ← hread]
    -- no other kind of value starts with the character
    split <;> simp_all

theorem readsBack_array {vs : List Json} (hopens : ∀ v ∈ vs, Opens v.chars)
    (h : ∀ v ∈ vs, ReadsBack v) : ReadsBack (.array vs) := by
  intro depth rest hdepth hrest
  rw [chars, elementChars_true] at hdepth ⊢
  cases depth with
  | zero => simp at hdepth
  | succ depth =>
    -- an element is shorter than the list by its brackets at least
    have hread : ∀ v ∈ vs, ∀ rest, Follows rest →
        readValue? depth (v.chars ++ rest) = some (v, rest) := by
      intro v hv rest
      refine h v hv depth rest ?_
      have hlength := length_le_length_written chars hv
      rw [List.length_append, List.length_cons, List.length_singleton] at hdepth
      omega
    rw [List.append_assoc, List.cons_append, readValue?, skipBlanks_cons rfl]
    simp [readList?_written (.inl rfl) hopens hread]

theorem readsBack_object {ms : List (String × Json)} (h : ∀ m ∈ ms, ReadsBack m.2) :
    ReadsBack (.object ms) := by
  intro depth rest hdepth hrest
  rw [chars, memberChars_true] at hdepth ⊢
  cases depth with
  | zero => simp at hdepth
  | succ depth =>
    have hread : ∀ m ∈ ms, ∀ rest, Follows rest →
        readMember? (readValue? depth) (memberText m ++ rest) = some (m, rest) := by
      intro m hm rest hrest
      refine readMember?_memberText (h m hm depth rest ?_ hrest)
      have hlength := length_le_length_written memberText hm
      rw [memberText, List.length_append, List.length_cons] at hlength
      rw [List.length_append, List.length_cons, List.length_singleton] at hdepth
      omega
    rw [List.append_assoc, List.cons_append, readValue?, skipBlanks_cons rfl]
    simp [readList?_written (.inr rfl) (fun m _ => opens_quote m.1 _) hread]

/-- **Values without decimals are read back**, whatever the order of their members. -/
theorem readsBack_of_whole (v : Json) : v.Whole → ReadsBack v := by
  induction v using value_induction with
  | null =>
    rintro - (_ | depth) rest hdepth -
    · simp [chars] at hdepth
    · rfl
  | bool b =>
    rintro - (_ | depth) rest hdepth -
    · cases b <;> simp [chars] at hdepth
    · cases b <;> rfl
  | int n =>
    intro h
    exact readsBack_int h
  | decimal m p =>
    intro h
    simp [Whole] at h
  | string s =>
    intro _
    exact readsBack_string s
  | array vs ih =>
    intro h
    rw [Whole, allWhole_iff] at h
    have hopens : ∀ v ∈ vs, Opens v.chars := fun v hv => opens_chars (h v hv)
    exact readsBack_array hopens fun v hv => ih v hv (h v hv)
  | object ms ih =>
    intro h
    rw [Whole, membersWhole_iff] at h
    exact readsBack_object fun m hm => ih m hm (h m hm)

/-! ### Whole texts -/

/-- **The members of every object are listed as the object has them.** -/
theorem listing?_render {v : Json} (h : v.Whole) : listing? v.render = some v := by
  -- nothing follows the value
  have hread := readsBack_of_whole v h _ [] (Nat.le_refl _) follows_nil
  rw [List.append_nil] at hread
  unfold listing? render
  rw [String.toList_ofList, hread]
  rfl

/-! ### Characters of a text -/

theorem mem_written {α : Type} {write : α → List Char} {xs : List α} {c : Char}
    (h : c ∈ written write xs) : c = ',' ∨ ∃ x ∈ xs, c ∈ write x := by
  cases xs with
  | nil => exact absurd h List.not_mem_nil
  | cons x xs =>
    rw [written, List.mem_append] at h
    rcases h with h | h
    · exact .inr ⟨x, List.mem_cons_self, h⟩
    · obtain ⟨y, hy, h⟩ := List.mem_flatMap.1 h
      rcases List.mem_cons.1 h with rfl | h
      · exact .inl rfl
      · exact .inr ⟨y, List.mem_cons_of_mem x hy, h⟩

theorem le_toNat_of_all {cs : List Char} (h : cs.all (fun c => 32 ≤ c.toNat) = true) {c : Char}
    (hc : c ∈ cs) : 32 ≤ c.toNat :=
  of_decide_eq_true (List.all_eq_true.1 h c hc)

theorem le_toNat_of_mem_escape {c d : Char} (h : d ∈ escape c) : 32 ≤ d.toNat := by
  have hdigit : ∀ n < 16, 32 ≤ (hexDigit n).toNat := by decide
  unfold escape at h
  split_ifs at h with _ _ _ _ _ _ _ hcontrol
  · exact le_toNat_of_all (by decide) h
  · exact le_toNat_of_all (by decide) h
  · exact le_toNat_of_all (by decide) h
  · exact le_toNat_of_all (by decide) h
  · exact le_toNat_of_all (by decide) h
  · exact le_toNat_of_all (by decide) h
  · exact le_toNat_of_all (by decide) h
  · -- the number of a control character
    have htens := hdigit (c.toNat / 16) (by omega)
    have hones := hdigit (c.toNat % 16) (by omega)
    refine le_toNat_of_all ?_ h
    simp [htens, hones]
  · rw [List.mem_singleton.1 h]
    omega

theorem le_toNat_of_mem_quote {s : String} {c : Char} (h : c ∈ quote s) : 32 ≤ c.toNat := by
  rw [quote, List.cons_append, List.mem_cons, List.mem_append, List.mem_singleton] at h
  rcases h with rfl | h | rfl
  · decide
  · obtain ⟨d, -, hd⟩ := List.mem_flatMap.1 h
    exact le_toNat_of_mem_escape hd
  · decide

theorem le_toNat_of_isDigit {c : Char} (h : IsDigit c) : 32 ≤ c.toNat := by
  unfold IsDigit digitValue? at h
  split at h
  · omega
  · cases h

theorem le_toNat_of_mem_signed {n : Int} {c : Char} (h : c ∈ signed n) : 32 ≤ c.toNat := by
  cases n with
  | ofNat n => exact le_toNat_of_isDigit (isDigit_of_mem_numeral h)
  | negSucc n =>
    rcases List.mem_cons.1 h with rfl | h
    · decide
    · exact le_toNat_of_isDigit (isDigit_of_mem_numeral h)

/-- **No control character is written.** -/
theorem le_toNat_of_mem_chars (v : Json) : v.Whole → ∀ c ∈ v.chars, 32 ≤ c.toNat := by
  induction v using value_induction with
  | null =>
    rintro - c hc
    exact le_toNat_of_all (by decide) hc
  | bool b =>
    rintro - c hc
    cases b with
    | false => exact le_toNat_of_all (by decide) hc
    | true => exact le_toNat_of_all (by decide) hc
  | int n =>
    rintro - c hc
    exact le_toNat_of_mem_signed hc
  | decimal m p =>
    intro h
    simp [Whole] at h
  | string s =>
    rintro - c hc
    exact le_toNat_of_mem_quote hc
  | array vs ih =>
    intro h c hc
    rw [Whole, allWhole_iff] at h
    rw [chars, elementChars_true, List.mem_append, List.mem_cons, List.mem_singleton] at hc
    rcases hc with (rfl | hc) | rfl
    · decide
    · rcases mem_written hc with rfl | ⟨v, hv, hc⟩
      · decide
      · exact ih v hv (h v hv) c hc
    · decide
  | object ms ih =>
    intro h c hc
    rw [Whole, membersWhole_iff] at h
    rw [chars, memberChars_true, List.mem_append, List.mem_cons, List.mem_singleton] at hc
    rcases hc with (rfl | hc) | rfl
    · decide
    · rcases mem_written hc with rfl | ⟨m, hm, hc⟩
      · decide
      · rw [memberText, List.mem_append, List.mem_cons] at hc
        rcases hc with hc | rfl | hc
        · exact le_toNat_of_mem_quote hc
        · decide
        · exact ih m hm (h m hm) c hc
    · decide

/-! ### Members in order -/

theorem allInOrder_eq {vs : List Json} (h : ∀ v ∈ vs, v.inOrder = v) : allInOrder vs = vs := by
  induction vs with
  | nil => rw [allInOrder]
  | cons v vs ih =>
    rw [allInOrder, h v List.mem_cons_self, ih fun w hw => h w (List.mem_cons_of_mem v hw)]

theorem membersInOrder_eq {ms : List (String × Json)} (h : ∀ m ∈ ms, m.2.inOrder = m.2) :
    membersInOrder ms = ms := by
  induction ms with
  | nil => rw [membersInOrder]
  | cons m ms ih =>
    rw [membersInOrder, h m List.mem_cons_self, ih fun n hn => h n (List.mem_cons_of_mem m hn)]

/-- Nothing changes in a value that is in order. -/
theorem inOrder_of_sorted (v : Json) : v.Sorted → v.inOrder = v := by
  induction v using value_induction with
  | null | bool | int | decimal | string => exact fun _ => by simp [inOrder]
  | array vs ih =>
    intro h
    rw [Sorted, allSorted_iff] at h
    have helements := allInOrder_eq fun v hv => ih v hv (h v hv)
    rw [inOrder, helements]
  | object ms ih =>
    intro h
    rw [Sorted, membersSorted_iff] at h
    obtain ⟨hordered, hvalues⟩ := h
    have hmembers := membersInOrder_eq fun m hm => ih m hm (hvalues m hm)
    rw [inOrder, hmembers, ofMembers, Members.ofList_of_ordered hordered]

/-- **An exact value is read back from its text.** -/
theorem ofText?_render {v : Json} (h : v.Exact) : ofText? v.render = some v := by
  rw [ofText?, listing?_render h.whole, Option.map_some, inOrder_of_sorted v h.sorted]

end SearchClient.Json
