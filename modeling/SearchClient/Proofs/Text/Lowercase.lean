import Mathlib.Data.Nat.Notation
import SearchClient.Text.Lowercase
import SearchClient.Url.Protocol

/-!
# Texts in lower case

Small letters have no small letters of their own: no run of capital letters meets
the small letters of a run.  So a text in lower case stays as it is when it is put
in lower case again, and so does every part of it.  Signs are not letters, and
nothing becomes a sign.

## Main definitions

* `Settled` — characters that lower case leaves as they are.
* `CaseRun.Apart` — a run of capital letters that meets no small letter of another.

## Main results

* `lowercase_of_settled`, `settled_of_mem_lowercase` — **texts in lower case are those
  whose characters are settled.**
* `mem_of_mem_lowercase` — **a sign in a text in lower case stood in the text.**
* `lowerAscii_of_settled` — the letters A to Z are capital letters.
-/

namespace SearchClient.Text

/-! ### Settled characters -/

/-- The capital I with a dot, as a run. -/
def dottedI : CaseRun := ⟨0x130, 0x130, 1, 0x69⟩

/-- A character that is no capital letter. -/
def Settled (c : Char) : Prop := ∀ r ∈ dottedI :: caseRuns, r.lower? c.toNat = none

instance (c : Char) : Decidable (Settled c) :=
  inferInstanceAs (Decidable (∀ r ∈ dottedI :: caseRuns, r.lower? c.toNat = none))

theorem CaseRun.lower?_eq_none {r : CaseRun} {n : ℕ} :
    r.lower? n = none ↔ ¬ (r.first ≤ n ∧ n ≤ r.last ∧ (n - r.first) % r.step = 0) := by
  unfold CaseRun.lower?
  split <;> simp_all

theorem CaseRun.lower?_eq_some {r : CaseRun} {n m : ℕ} :
    r.lower? n = some m ↔
      (r.first ≤ n ∧ n ≤ r.last ∧ (n - r.first) % r.step = 0) ∧ m = r.small + (n - r.first) := by
  unfold CaseRun.lower?
  split <;> simp_all [eq_comm]

theorem Settled.not_mem_run {c : Char} (hc : Settled c) {r : CaseRun} (hr : r ∈ caseRuns)
    (hstep : r.step = 1) : ¬ (r.first ≤ c.toNat ∧ c.toNat ≤ r.last) := by
  intro h
  refine CaseRun.lower?_eq_none.1 (hc r (List.mem_cons_of_mem _ hr)) ⟨h.1, h.2, ?_⟩
  rw [hstep, Nat.mod_one]

theorem Settled.ne_sigma {c : Char} (hc : Settled c) : c.toNat ≠ 0x3a3 := by
  intro h
  have hrun := hc.not_mem_run (r := ⟨0x3a3, 0x3ab, 1, 0x3c3⟩) (by decide) rfl
  rw [h] at hrun
  exact hrun (by decide)

theorem Settled.lowerChar_eq {c : Char} (hc : Settled c) : lowerChar c = [c] := by
  have hdot : c.toNat ≠ 0x130 := fun h => by
    have hnone := hc dottedI List.mem_cons_self
    rw [h] at hnone
    cases hnone
  have hrun : caseRuns.findSome? (fun r => r.lower? c.toNat) = none :=
    List.findSome?_eq_none_iff.2 fun r hr => hc r (List.mem_cons_of_mem _ hr)
  rw [lowerChar, if_neg hdot, hrun]

theorem lowerAfter_of_settled {cs : List Char} (h : ∀ c ∈ cs, Settled c) (reversed : List Char) :
    lowerAfter reversed cs = cs := by
  induction cs generalizing reversed with
  | nil => rfl
  | cons c cs ih =>
    have hc := h c List.mem_cons_self
    rw [lowerAfter, if_neg hc.ne_sigma, hc.lowerChar_eq,
      ih (fun d hd => h d (List.mem_cons_of_mem c hd))]
    rfl

/-- **A text of settled characters is in lower case.** -/
theorem lowercase_of_settled {s : String} (h : ∀ c ∈ s.toList, Settled c) : lowercase s = s := by
  rw [lowercase, lowerAfter_of_settled h, String.ofList_toList]

/-! ### Small letters -/

/-- No capital letter of the run `s` is a small letter of the run `r`: they lie apart,
or alternate. -/
def CaseRun.Apart (r s : CaseRun) : Bool :=
  Nat.blt (r.small + (r.last - r.first)) s.first || Nat.blt s.last r.small ||
    (Nat.beq s.step 2 && (Nat.beq r.step 2 || Nat.beq r.first r.last) &&
      Nat.beq ((r.small + s.first) % 2) 1)

/-- No run of capital letters meets the small letters of a run. -/
theorem apart_caseRuns : (caseRuns.all fun r => (dottedI :: caseRuns).all r.Apart) = true := by
  decide +kernel

/-- Small letters are characters, and none comes before the letter a. -/
theorem bounds_caseRuns : ∀ r ∈ caseRuns, 0x61 ≤ r.small ∧
    (r.small + (r.last - r.first) < 0xd800 ∨
      0xdfff < r.small ∧ r.small + (r.last - r.first) < 0x110000) := by
  decide +kernel

theorem CaseRun.lower?_eq_none_of_apart {r s : CaseRun} (h : r.Apart s) {n m : ℕ}
    (hm : r.lower? n = some m) : s.lower? m = none := by
  rw [CaseRun.lower?_eq_some] at hm
  rw [CaseRun.lower?_eq_none]
  simp only [CaseRun.Apart, Bool.or_eq_true, Bool.and_eq_true, Nat.blt_eq, Nat.beq_eq] at h
  obtain ⟨⟨hfirst, hlast, hmod⟩, rfl⟩ := hm
  rintro ⟨hs, hl, hsmod⟩
  rcases h with (h | h) | ⟨⟨hstep, hr⟩, hodd⟩
  · omega
  · omega
  · -- the letters of both runs lie two places apart, those of one at even places
    rw [hstep] at hsmod
    have heven : (n - r.first) % 2 = 0 := by
      rcases hr with hr | hr
      · rwa [hr] at hmod
      · omega
    omega

/-- What a character becomes. -/
theorem mem_lowerChar {c d : Char} (h : c ∈ lowerChar d) :
    (c = d ∧ Settled d) ∨ c = 'i' ∨ c = Char.ofNat 0x307 ∨
      ∃ r ∈ caseRuns, ∃ n, r.lower? d.toNat = some n ∧ c = Char.ofNat n := by
  unfold lowerChar at h
  split at h
  · rcases List.mem_cons.1 h with h | h
    · exact .inr (.inl h)
    · exact .inr (.inr (.inl (List.mem_singleton.1 h)))
  · next hdot =>
    split at h
    · next n hn =>
      obtain ⟨r, hr, hrn⟩ := List.exists_of_findSome?_eq_some hn
      exact .inr (.inr (.inr ⟨r, hr, n, hrn, List.mem_singleton.1 h⟩))
    · next hnone =>
      refine .inl ⟨List.mem_singleton.1 h, fun r hr => ?_⟩
      rcases List.mem_cons.1 hr with rfl | hr
      · rw [CaseRun.lower?_eq_none]
        rintro ⟨hlow, hhigh, -⟩
        exact hdot (Nat.le_antisymm hhigh hlow)
      · exact List.findSome?_eq_none_iff.1 hnone r hr

theorem toNat_ofNat_lower? {r : CaseRun} (hr : r ∈ caseRuns) {n m : ℕ} (hm : r.lower? n = some m) :
    (Char.ofNat m).toNat = m ∧ 0x61 ≤ m := by
  obtain ⟨⟨hfirst, hlast, -⟩, hm⟩ := CaseRun.lower?_eq_some.1 hm
  obtain ⟨hlow, hvalid⟩ := bounds_caseRuns r hr
  have hchar : m.isValidChar := by
    rcases hvalid with hvalid | ⟨hvalid, hvalid'⟩
    · exact .inl (by omega)
    · exact .inr ⟨by omega, by omega⟩
  refine ⟨?_, by omega⟩
  rw [Char.ofNat, dif_pos hchar]
  rfl

theorem settled_of_mem_lowerChar {c d : Char} (h : c ∈ lowerChar d) : Settled c := by
  rcases mem_lowerChar h with ⟨rfl, hd⟩ | rfl | rfl | ⟨r, hr, n, hn, rfl⟩
  · exact hd
  · decide +kernel
  · decide +kernel
  · intro s hs
    have hapart := List.all_eq_true.1 (List.all_eq_true.1 apart_caseRuns r hr) s hs
    rw [(toNat_ofNat_lower? hr hn).1]
    exact CaseRun.lower?_eq_none_of_apart hapart hn

/-! ### Texts -/

/-- Where the characters of a text in lower case come from.  Only the sigma is not
treated like other letters. -/
theorem mem_lowerAfter {c : Char} {cs reversed : List Char} (h : c ∈ lowerAfter reversed cs) :
    c = 'ς' ∨ ∃ d ∈ cs, c ∈ lowerChar d := by
  induction cs generalizing reversed with
  | nil => cases h
  | cons d cs ih =>
    rw [lowerAfter, List.mem_append] at h
    rcases h with h | h
    · split at h
      · next hsigma =>
        obtain rfl : d = 'Σ' := Char.toNat_inj.1 hsigma
        obtain rfl := List.mem_singleton.1 h
        unfold smallSigma
        split
        · exact .inl rfl
        · exact .inr ⟨'Σ', List.mem_cons_self, by decide +kernel⟩
      · exact .inr ⟨d, List.mem_cons_self, h⟩
    · rcases ih h with h | ⟨e, he, h⟩
      · exact .inl h
      · exact .inr ⟨e, List.mem_cons_of_mem d he, h⟩

/-- **The characters of a text in lower case are settled.** -/
theorem settled_of_mem_lowercase {c : Char} {s : String} (h : c ∈ (lowercase s).toList) :
    Settled c := by
  rw [lowercase, String.toList_ofList] at h
  rcases mem_lowerAfter h with rfl | ⟨d, -, h⟩
  · decide +kernel
  · exact settled_of_mem_lowerChar h

/-- **A character before the letter a stands in a text in lower case only if it stood
in the text.** -/
theorem mem_of_mem_lowercase {c : Char} (hc : c.toNat < 0x61) {s : String}
    (h : c ∈ (lowercase s).toList) : c ∈ s.toList := by
  rw [lowercase, String.toList_ofList] at h
  rcases mem_lowerAfter h with rfl | ⟨d, hd, h⟩
  · exact absurd hc (by decide)
  · rcases mem_lowerChar h with ⟨rfl, -⟩ | rfl | rfl | ⟨r, hr, n, hn, rfl⟩
    · exact hd
    · exact absurd hc (by decide)
    · exact absurd hc (by decide)
    · have hsmall := toNat_ofNat_lower? hr hn
      omega

theorem Settled.toLower_eq {c : Char} (hc : Settled c) : c.toLower = c := by
  have hrun := hc.not_mem_run (r := ⟨0x41, 0x5a, 1, 0x61⟩) (by decide) rfl
  unfold Char.toLower
  split
  · next h => exact absurd h hrun
  · rfl

/-- The letters A to Z are no settled characters. -/
theorem lowerAscii_of_settled {s : String} (h : ∀ c ∈ s.toList, Settled c) : lowerAscii s = s := by
  have hmap : s.toList.map Char.toLower = s.toList.map id :=
    List.map_congr_left fun c hc => (h c hc).toLower_eq
  rw [lowerAscii, hmap, List.map_id, String.ofList_toList]

end SearchClient.Text
