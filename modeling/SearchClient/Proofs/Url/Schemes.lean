import SearchClient.Proofs.Url.Building

/-!
# Schemes in front of a text

No scheme is the beginning of another one, so a text has one stack of schemes at its start,
one behind the other, and a rest that starts with none, and they can be told in one way only.

A base URL loses schemes at its start, but not always all of them: each scheme is looked
for once, in the order of `Protocol.all`, on what the ones before it have left.  So the
schemes that go are the longest start of the stack that keeps to that order, and the first
one that stands out of order stays there with all that is behind it.

## Main definitions

* `Protocol.schemes`, `Bare` — a stack of schemes, and a text that starts with none.
* `Protocol.Along` — a list of protocols cut where it leaves an order.
* `Url.Builder.dropInOrder` — the schemes that are found in an order, taken off.

## Main results

* `Protocol.scheme_append_inj` — a text begins with one scheme at most.
* `exists_schemes_append`, `schemes_append_inj` — every text is a stack of schemes and a
  bare rest, in one way only.
* `Url.Builder.exists_along_dropInOrder` — **the schemes that are taken off.**
* `Url.Builder.dropSchemes_scheme_append_iff` — when a scheme in front makes no difference.
* `Url.Builder.baseUrl_leading` — **what a base URL loses**, and
  `Url.Builder.baseUrl_schemeBehind`, which keeps a scheme.
-/

namespace SearchClient

/-! ### Stacks of schemes -/

namespace Protocol

/-- **A text begins with one scheme at most.** -/
theorem scheme_append_inj {p q : Protocol} {s t : String} :
    p.scheme ++ s = q.scheme ++ t ↔ p = q ∧ s = t := by
  constructor
  · intro h
    have hlists := congrArg String.toList h
    have hpq : p = q := by
      cases p <;> cases q <;> simp [scheme, name] at hlists ⊢
    subst hpq
    exact ⟨rfl, (String.append_right_inj _).1 h⟩
  · rintro ⟨rfl, rfl⟩
    rfl

theorem length_lt_scheme_append (p : Protocol) (t : String) :
    t.length < (p.scheme ++ t).length := by
  have hpos : 0 < p.scheme.length := by cases p <;> decide
  rw [String.length_append]
  omega

/-- A stack of schemes, one behind the other. -/
def schemes (ps : List Protocol) : String := String.join (ps.map scheme)

@[simp] theorem schemes_nil : schemes [] = "" := rfl

theorem schemes_cons (p : Protocol) (ps : List Protocol) :
    schemes (p :: ps) = p.scheme ++ schemes ps := String.join_cons

theorem schemes_append (ps qs : List Protocol) :
    schemes (ps ++ qs) = schemes ps ++ schemes qs := by
  rw [schemes, List.map_append, String.join_append]
  rfl

end Protocol

open Protocol

/-- The text does not begin with a scheme. -/
def Bare (s : String) : Prop := ∀ (p : Protocol) (t : String), s ≠ p.scheme ++ t

theorem not_bare_iff {s : String} :
    ¬Bare s ↔ ∃ (p : Protocol) (t : String), s = p.scheme ++ t := by
  simp [Bare]

/-- **Every text is a stack of schemes and a bare rest.** -/
theorem exists_schemes_append (s : String) : ∃ ps r, s = schemes ps ++ r ∧ Bare r := by
  induction hn : s.length using Nat.strongRecOn generalizing s with
  | ind n ih =>
    by_cases hs : Bare s
    · exact ⟨[], s, by simp, hs⟩
    · -- a scheme comes off
      obtain ⟨p, t, rfl⟩ := not_bare_iff.1 hs
      obtain ⟨ps, r, ht, hr⟩ := ih t.length (hn ▸ p.length_lt_scheme_append t) t rfl
      exact ⟨p :: ps, r, by rw [schemes_cons, String.append_assoc, ← ht], hr⟩

/-- The scheme that a text begins with is the first one of its stack. -/
theorem schemes_append_eq_iff {ps : List Protocol} {r : String} (hr : Bare r) {p : Protocol} :
    (∃ t, schemes ps ++ r = p.scheme ++ t) ↔ ps.head? = some p := by
  cases ps with
  | nil =>
    refine iff_of_false ?_ (by simp)
    rintro ⟨t, ht⟩
    exact hr p t (by rwa [schemes_nil, String.empty_append] at ht)
  | cons q ps =>
    simp only [schemes_cons, String.append_assoc, scheme_append_inj, List.head?_cons,
      Option.some.injEq]
    exact ⟨fun ⟨t, hqp, _⟩ => hqp, fun hqp => ⟨_, hqp, rfl⟩⟩

/-- **A text is a stack of schemes and a bare rest in one way only.** -/
theorem schemes_append_inj {ps qs : List Protocol} {r u : String} (hr : Bare r) (hu : Bare u) :
    schemes ps ++ r = schemes qs ++ u ↔ ps = qs ∧ r = u := by
  induction ps generalizing qs with
  | nil =>
    cases qs with
    | nil => simp
    | cons q qs =>
      refine iff_of_false (fun h => hr q (schemes qs ++ u) ?_) (by simp)
      rwa [schemes_nil, String.empty_append, schemes_cons, String.append_assoc] at h
  | cons p ps ih =>
    cases qs with
    | nil =>
      refine iff_of_false (fun h => hu p (schemes ps ++ r) ?_) (by simp)
      rw [schemes_nil, String.empty_append, schemes_cons, String.append_assoc] at h
      exact h.symm
    | cons q qs =>
      rw [schemes_cons, schemes_cons, String.append_assoc, String.append_assoc,
        scheme_append_inj, ih, List.cons.injEq, and_assoc]

theorem bare_schemes_append_iff {ps : List Protocol} {r : String} (hr : Bare r) :
    Bare (schemes ps ++ r) ↔ ps = [] := by
  cases ps with
  | nil => simpa using hr
  | cons p ps =>
    refine iff_of_false (not_bare_iff.2 ⟨p, schemes ps ++ r, ?_⟩) (List.cons_ne_nil p ps)
    rw [schemes_cons, String.append_assoc]

/-! ### Keeping to an order -/

/-- `ps` is cut where it leaves `order`: its longest start that keeps to the order is
dropped, and the rest is kept. -/
structure Protocol.Along (order ps dropped kept : List Protocol) : Prop where
  /-- The two parts make the list. -/
  append : dropped ++ kept = ps
  /-- What is dropped comes in the order. -/
  sublist : dropped.Sublist order
  /-- What is kept begins out of order. -/
  longest : ∀ p ∈ kept.head?, ¬(dropped ++ [p]).Sublist order

/-- Nothing is kept exactly if the whole list keeps to the order. -/
theorem Protocol.Along.kept_eq_nil_iff {order ps dropped kept : List Protocol}
    (h : Along order ps dropped kept) : kept = [] ↔ ps.Sublist order := by
  rw [← h.append]
  rcases kept with - | ⟨p, ps⟩
  · simpa using h.sublist
  · refine iff_of_false (List.cons_ne_nil p ps) fun hsub => ?_
    refine h.longest p rfl (List.Sublist.trans ?_ hsub)
    simp

namespace Url.Builder

/-! ### Schemes taken off in an order -/

/-- A text without the schemes that are found at its start, each looked for once, in the
given order. -/
def dropInOrder (order : List Protocol) (s : String) : String :=
  String.ofList (order.foldl (fun t p => dropLead p.scheme.toList t) s.toList)

theorem dropSchemes_eq (s : String) : dropSchemes s = dropInOrder all s := rfl

@[simp] theorem dropInOrder_nil (s : String) : dropInOrder [] s = s := String.ofList_toList

theorem dropInOrder_append (order rest : List Protocol) (s : String) :
    dropInOrder (order ++ rest) s = dropInOrder rest (dropInOrder order s) := by
  rw [dropInOrder, dropInOrder, dropInOrder, List.foldl_append, String.toList_ofList]

/-- A scheme that is looked for is taken off. -/
theorem dropInOrder_cons_scheme (p : Protocol) (order : List Protocol) (s : String) :
    dropInOrder (p :: order) (p.scheme ++ s) = dropInOrder order s := by
  have hlead : dropLead p.scheme.toList (p.scheme ++ s).toList = s.toList := by
    simp [dropLead]
  rw [dropInOrder, List.foldl_cons, hlead]
  rfl

/-- A scheme that is not there changes nothing. -/
theorem dropInOrder_cons_of_ne {p : Protocol} {s : String} (h : ∀ t, s ≠ p.scheme ++ t)
    (order : List Protocol) : dropInOrder (p :: order) s = dropInOrder order s := by
  have hprefix : ¬p.scheme.toList.isPrefixOf s.toList = true := by
    rw [List.isPrefixOf_iff_prefix]
    rintro ⟨cs, hcs⟩
    refine h (String.ofList cs) ?_
    rw [← String.toList_inj, String.toList_append, String.toList_ofList, hcs]
  have hlead : dropLead p.scheme.toList s.toList = s.toList := if_neg hprefix
  rw [dropInOrder, List.foldl_cons, hlead]
  rfl

theorem length_dropInOrder_le (order : List Protocol) (s : String) :
    (dropInOrder order s).length ≤ s.length := by
  induction order generalizing s with
  | nil => exact Nat.le_of_eq (by rw [dropInOrder_nil])
  | cons p order ih =>
    by_cases hs : ∃ t, s = p.scheme ++ t
    · obtain ⟨t, rfl⟩ := hs
      rw [dropInOrder_cons_scheme, String.length_append]
      exact Nat.le_trans (ih t) (Nat.le_add_left _ _)
    · rw [dropInOrder_cons_of_ne (not_exists.1 hs)]
      exact ih s

/-- **A text is left as it is** exactly if none of the schemes is at its start. -/
theorem dropInOrder_eq_self_iff {order : List Protocol} {s : String} :
    dropInOrder order s = s ↔ ∀ p ∈ order, ∀ t, s ≠ p.scheme ++ t := by
  induction order with
  | nil => simp
  | cons p order ih =>
    rw [List.forall_mem_cons]
    by_cases hs : ∃ t, s = p.scheme ++ t
    · refine iff_of_false ?_ fun h => not_exists.2 h.1 hs
      obtain ⟨t, rfl⟩ := hs
      intro heq
      -- what is left behind a scheme is shorter
      have hle := length_dropInOrder_le order t
      rw [dropInOrder_cons_scheme] at heq
      rw [heq] at hle
      exact Nat.not_lt.2 hle (p.length_lt_scheme_append t)
    · have hne := not_exists.1 hs
      rw [dropInOrder_cons_of_ne hne, ih, and_iff_right hne]

theorem dropSchemes_eq_self_iff {s : String} : dropSchemes s = s ↔ Bare s := by
  rw [dropSchemes_eq, dropInOrder_eq_self_iff]
  exact ⟨fun h p => h p p.mem_all, fun h p _ => h p⟩

/-- **The schemes that are taken off** are the longest start of the stack that keeps to the
order. -/
theorem exists_along_dropInOrder {r : String} (hr : Bare r) (order ps : List Protocol) :
    ∃ dropped kept, Along order ps dropped kept ∧
      dropInOrder order (schemes ps ++ r) = schemes kept ++ r := by
  induction order generalizing ps with
  | nil => exact ⟨[], ps, ⟨rfl, .slnil, by simp⟩, dropInOrder_nil _⟩
  | cons q order ih =>
    by_cases hq : ps.head? = some q
    · -- the first scheme of the stack is the one that is looked for
      obtain ⟨qs, rfl⟩ := List.head?_eq_some_iff.1 hq
      obtain ⟨dropped, kept, h, hdrop⟩ := ih qs
      refine ⟨q :: dropped, kept, ⟨?_, ?_, fun p hp => ?_⟩, ?_⟩
      · rw [List.cons_append, h.append]
      · exact List.cons_sublist_cons.2 h.sublist
      · rw [List.cons_append, List.cons_sublist_cons]
        exact h.longest p hp
      · rw [schemes_cons, String.append_assoc, dropInOrder_cons_scheme, hdrop]
    · obtain ⟨dropped, kept, h, hdrop⟩ := ih ps
      refine ⟨dropped, kept, ⟨h.append, h.sublist.cons q, fun p hp hsub => ?_⟩, ?_⟩
      · -- what begins with another scheme cannot make use of the first place of the order
        rcases List.sublist_cons_iff.1 hsub with hsub | ⟨ds, hds, -⟩
        · exact h.longest p hp hsub
        · refine hq ?_
          obtain ⟨ks, rfl⟩ := List.head?_eq_some_iff.1 hp
          rw [← h.append, ← List.singleton_append, ← List.append_assoc, hds]
          rfl
      · rw [dropInOrder_cons_of_ne _ order, hdrop]
        exact not_exists.1 (mt (schemes_append_eq_iff hr).1 hq)

/-! ### A scheme more in front -/

/-- The order is cut at a protocol: those that come after it are those behind it, and none
of them stands before it as well. -/
theorem exists_all_eq (q : Protocol) :
    ∃ before after, all = before ++ q :: after ∧ q ∉ before ∧
      (∀ p ∈ after, p ∉ before ++ [q]) ∧ ∀ p, [q, p].Sublist all ↔ p ∈ after := by
  cases q with
  | ws => exact ⟨[], [.http, .https], rfl, by decide, by decide, fun p => by cases p <;> decide⟩
  | http => exact ⟨[.ws], [.https], rfl, by decide, by decide, fun p => by cases p <;> decide⟩
  | https => exact ⟨[.ws, .http], [], rfl, by decide, by decide, fun p => by cases p <;> decide⟩

/-- A scheme that is not looked for stays, with all that is behind it. -/
theorem dropInOrder_scheme_append {p : Protocol} {order : List Protocol} (hp : p ∉ order)
    (s : String) : dropInOrder order (p.scheme ++ s) = p.scheme ++ s := by
  refine dropInOrder_eq_self_iff.2 fun q hq t heq => hp ?_
  rwa [(scheme_append_inj.1 heq).1]

/-- **A scheme more in front makes no difference** exactly if it comes before the one, if
any, that was first. -/
theorem dropSchemes_scheme_append_iff {q : Protocol} {s : String} :
    dropSchemes (q.scheme ++ s) = dropSchemes s ↔
      ∀ p t, s = p.scheme ++ t → [q, p].Sublist all := by
  obtain ⟨before, after, hall, hq, hbefore, hafter⟩ := exists_all_eq q
  have hmore : dropSchemes (q.scheme ++ s) = dropInOrder after s := by
    rw [dropSchemes_eq, hall, dropInOrder_append, dropInOrder_scheme_append hq,
      dropInOrder_cons_scheme]
  rw [hmore]
  by_cases hs : Bare s
  · -- nothing is taken off, with the scheme in front or without it
    have hkeep : dropInOrder after s = s := dropInOrder_eq_self_iff.2 fun p _ => hs p
    rw [hkeep, dropSchemes_eq_self_iff.2 hs]
    exact iff_of_true rfl fun p t heq => absurd heq (hs p t)
  · obtain ⟨p, t, rfl⟩ := not_bare_iff.1 hs
    have hfirst : (∀ p' t', p.scheme ++ t = p'.scheme ++ t' → [q, p'].Sublist all) ↔
        p ∈ after := by
      rw [← hafter]
      refine ⟨fun h => h p t rfl, fun h p' t' heq => ?_⟩
      rwa [← (scheme_append_inj.1 heq).1]
    rw [hfirst]
    by_cases hp : p ∈ after
    · -- what was first is looked for after the scheme in front
      have hsplit : all = before ++ [q] ++ after := by rw [hall, List.append_assoc]; rfl
      refine iff_of_true ?_ hp
      rw [dropSchemes_eq, hsplit, dropInOrder_append, dropInOrder_scheme_append (hbefore p hp)]
    · refine iff_of_false ?_ hp
      rw [dropInOrder_scheme_append hp]
      exact fun heq => hs (dropSchemes_eq_self_iff.1 heq.symm)

/-! ### Base URLs -/

theorem build_baseUrl_eq_iff (b : Builder) {s t : String} :
    (b.baseUrl s).build = (b.baseUrl t).build ↔ dropSchemes s = dropSchemes t := by
  rw [← Url.text_inj, baseUrl, baseUrl, text_build_push, text_build_push,
    String.append_right_inj]

/-- **What a base URL loses.**  A text has one stack of schemes at its start and a rest that
starts with none.  Of these schemes those go that come in the order of `Protocol.all`, up to
the first one that does not; that one stays, and so does all behind it.  So no scheme is left
exactly if they all come in that order, and only then does taking them off once more change
nothing.  A further scheme in front makes no difference exactly if it comes before the one,
if any, that was first. -/
theorem baseUrl_leading (s : String) :
    ∃ (dropped kept : List Protocol) (rest : String),
      s = schemes dropped ++ (schemes kept ++ rest) ∧ Bare rest ∧
        (∀ ps r, s = schemes ps ++ r → Bare r → ps = dropped ++ kept ∧ r = rest) ∧
        dropped.Sublist all ∧ (∀ p ∈ kept.head?, ¬(dropped ++ [p]).Sublist all) ∧
        (∀ b : Builder, b.baseUrl s = b.push (schemes kept ++ rest)) ∧
        (Bare (schemes kept ++ rest) ↔ (dropped ++ kept).Sublist all) ∧
        (dropSchemes (schemes kept ++ rest) = schemes kept ++ rest ↔
          (dropped ++ kept).Sublist all) ∧
        ∀ (b : Builder) (q : Protocol),
          (b.baseUrl (q.scheme ++ s)).build = (b.baseUrl s).build ↔
            ∀ p ∈ (dropped ++ kept).head?, [q, p].Sublist all := by
  obtain ⟨ps, rest, rfl, hrest⟩ := exists_schemes_append s
  obtain ⟨dropped, kept, h, hdrop⟩ := exists_along_dropInOrder hrest all ps
  have hbare : Bare (schemes kept ++ rest) ↔ (dropped ++ kept).Sublist all := by
    rw [bare_schemes_append_iff hrest, h.kept_eq_nil_iff, h.append]
  refine ⟨dropped, kept, rest, ?_, hrest, fun qs r heq hr => ?_, h.sublist, h.longest,
    fun b => ?_, hbare, ?_, fun b q => ?_⟩
  · rw [← h.append, schemes_append, String.append_assoc]
  · rw [h.append]
    exact (schemes_append_inj hr hrest).1 heq.symm
  · rw [← hdrop]
    rfl
  · rw [dropSchemes_eq_self_iff, hbare]
  · rw [build_baseUrl_eq_iff, dropSchemes_scheme_append_iff, h.append]
    refine forall_congr' fun p => ?_
    rw [Option.mem_def, ← schemes_append_eq_iff hrest, forall_exists_index]

/-- **A scheme behind a later one is kept**: `https://` is looked for last, and `http://` is
found behind it too late. -/
theorem baseUrl_schemeBehind :
    dropSchemes "https://http://localhost:8080" = "http://localhost:8080" ∧
      ¬Bare (dropSchemes "https://http://localhost:8080") ∧
      dropSchemes (dropSchemes "https://http://localhost:8080")
        ≠ dropSchemes "https://http://localhost:8080" ∧
      ((empty.protocol .http).baseUrl (Protocol.https.scheme ++ "http://localhost:8080")).build
        ≠ ((empty.protocol .http).baseUrl "http://localhost:8080").build := by
  refine ⟨by decide +kernel, ?_, by decide +kernel, by decide +kernel⟩
  exact fun h => h .http "localhost:8080" (by decide +kernel)

end Url.Builder

end SearchClient
