import Mathlib.Data.Nat.Notation
import Mathlib.Logic.Function.Basic
import SearchClient.Url.Protocol

/-!
# Names in capital or small letters

Some texts have to be one of a few names.  A reader of names takes each of them as it is
written, or in capital and small letters alike; in the latter case only the letters A to Z
count as capital letters, so that no letter of another script is ever taken for one of these.

## Main definitions

* `smallLetter`, `SameLetters` — texts that differ from another one in capital letters only.
* `Ascii` — texts of the characters below U+0080.
* `ReadsNames` — what a reader of names does.

## Main results

* `lowerAscii_eq_iff` — a text in lower case, code point by code point.
* `SameLetters.ascii` — a text in which only capital letters differ from an ASCII text is
  one, too.
* `find?_name_eq_some_iff` — a value is found by its name.
* `ReadsNames.of_eq_some_iff` — **a reader that takes the names and nothing else reads each
  name as its value, and none in two ways.**
-/

namespace SearchClient

/-! ### Letters -/

/-- The code point of the small letter if `n` is that of a letter from A to Z, and `n` itself
otherwise. -/
def smallLetter (n : ℕ) : ℕ := if 65 ≤ n ∧ n ≤ 90 then n + 32 else n

/-- A code point stays on its side of U+0080. -/
theorem smallLetter_lt_iff {n : ℕ} : smallLetter n < 128 ↔ n < 128 := by
  unfold smallLetter
  split <;> omega

theorem toNat_toLower (c : Char) : c.toLower.toNat = smallLetter c.toNat := by
  have hcapital : (c.val ≥ 'A'.val ∧ c.val ≤ 'Z'.val) ↔ 65 ≤ c.toNat ∧ c.toNat ≤ 90 := by
    rw [ge_iff_le, UInt32.le_iff_toNat_le, UInt32.le_iff_toNat_le]
    rfl
  unfold Char.toLower smallLetter
  split
  · rename_i h
    rw [hcapital] at h
    rw [if_pos h]
    -- the sum of the code point and the distance of the two cases does not wrap around
    have hsum : (c.val + ('a'.val - 'A'.val)).toNat = (c.val.toNat + 32) % 2 ^ 32 :=
      UInt32.toNat_add _ _
    have hle : c.val.toNat ≤ 90 := h.2
    rw [Nat.mod_eq_of_lt (by omega)] at hsum
    exact hsum
  · rename_i h
    rw [hcapital] at h
    rw [if_neg h]

/-- `s` with the letters A to Z in lower case, and with nothing else changed, is `t`. -/
def SameLetters (s t : String) : Prop :=
  (s.toList.map fun c => smallLetter c.toNat) = t.toList.map Char.toNat

instance (s t : String) : Decidable (SameLetters s t) :=
  inferInstanceAs (Decidable (_ = _))

/-- **A text in lower case**, code point by code point. -/
theorem lowerAscii_eq_iff {s t : String} : lowerAscii s = t ↔ SameLetters s t := by
  have hinj : Function.Injective Char.toNat := fun _ _ h => Char.toNat_inj.1 h
  have hmap : (s.toList.map Char.toLower).map Char.toNat
      = s.toList.map fun c => smallLetter c.toNat := by
    rw [List.map_map]
    exact List.map_congr_left fun c _ => toNat_toLower c
  unfold SameLetters
  rw [← hmap, List.map_inj_right fun _ _ h => hinj h, ← String.toList_inj, lowerAscii,
    String.toList_ofList]

/-- All characters of `s` are below U+0080. -/
def Ascii (s : String) : Prop := ∀ c ∈ s.toList, c.toNat < 128

instance (s : String) : Decidable (Ascii s) :=
  List.decidableBAll (fun c : Char => c.toNat < 128) s.toList

/-- No character beyond ASCII has a small letter among the characters of ASCII. -/
theorem SameLetters.ascii {s t : String} (h : SameLetters s t) (ht : Ascii t) : Ascii s := by
  intro c hc
  have hmem : smallLetter c.toNat ∈ t.toList.map Char.toNat := by
    rw [← h]
    exact List.mem_map_of_mem hc
  obtain ⟨d, hd, hdc⟩ := List.mem_map.1 hmem
  have hlt := ht d hd
  rw [hdc] at hlt
  exact smallLetter_lt_iff.1 hlt

/-! ### Readers of names -/

variable {α : Type} {name : α → String} {same : String → String → Prop}
  {read : String → Option α}

/-- **A value is found by its name** in a list of all values with names of their own. -/
theorem find?_name_eq_some_iff {all : List α} (hall : ∀ a, a ∈ all)
    (hinj : Function.Injective name) {text : String} {a : α} :
    (all.find? fun b => name b = text) = some a ↔ text = name a := by
  constructor
  · intro h
    have hname := List.find?_some h
    exact (of_decide_eq_true hname).symm
  · rintro rfl
    cases hfind : all.find? fun b => name b = name a with
    | some b =>
      have hname := List.find?_some hfind
      rw [hinj (of_decide_eq_true hname)]
    | none =>
      have hnone := List.find?_eq_none.1 hfind a (hall a)
      exact absurd (decide_eq_true rfl) hnone

/-- `read` takes the texts that are the same as a name, and nothing else. -/
structure ReadsNames (name : α → String) (same : String → String → Prop)
    (read : String → Option α) : Prop where
  /-- A text is read as a value if and only if it is the same as the value's name. -/
  eq_some_iff (s : String) (a : α) : read s = some a ↔ same s (name a)
  /-- The name of a value is read as the value. -/
  own (a : α) : read (name a) = some a
  /-- No text is the same as the names of two values. -/
  one (s : String) (a b : α) : same s (name a) → same s (name b) → a = b
  /-- A text with a character beyond ASCII is not read. -/
  foreign (s : String) : ¬ Ascii s → read s = none

/-- **A reader that takes the names and nothing else** reads each name as its value, and none
in two ways, and it takes no characters beyond ASCII if `same` allows none. -/
theorem ReadsNames.of_eq_some_iff (hread : ∀ s a, read s = some a ↔ same s (name a))
    (hown : ∀ a, same (name a) (name a)) (hascii : ∀ s a, same s (name a) → Ascii s) :
    ReadsNames name same read where
  eq_some_iff := hread
  own a := (hread (name a) a).2 (hown a)
  one s a b ha hb := by
    rw [← hread] at ha hb
    exact Option.some.inj (ha.symm.trans hb)
  foreign s hs := by
    rw [Option.eq_none_iff_forall_ne_some]
    intro a ha
    exact hs (hascii s a ((hread s a).1 ha))

/-- A reader of names exactly as they are written. -/
theorem ReadsNames.of_eq (hread : ∀ s a, read s = some a ↔ s = name a)
    (hascii : ∀ a, Ascii (name a)) : ReadsNames name Eq read := by
  refine .of_eq_some_iff hread (fun _ => rfl) ?_
  rintro s a rfl
  exact hascii a

/-- A reader of names in capital and small letters alike. -/
theorem ReadsNames.of_lowerAscii (hread : ∀ s a, read s = some a ↔ lowerAscii s = name a)
    (hown : ∀ a, SameLetters (name a) (name a)) (hascii : ∀ a, Ascii (name a)) :
    ReadsNames name SameLetters read := by
  refine .of_eq_some_iff (fun s a => ?_) hown fun s a h => h.ascii (hascii a)
  rw [hread, lowerAscii_eq_iff]

end SearchClient
