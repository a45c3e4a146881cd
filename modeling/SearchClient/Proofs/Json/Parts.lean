import SearchClient.Json.Text
import SearchClient.Proofs.Json.Reader

/-!
# Strings, numbers and lists are read back

What is written for a string, for a whole number of 64 bits and for the items of a list is
read back, and what follows it is left.  A string ends with its quotation mark and a list
with its bracket, but a number has no end of its own: it is read back before anything that
may follow a value, which starts with no digit.

## Main definitions

* `Follows` — what may follow a value.
* `Opens` — texts that start with no blank and no closing bracket.
* `written` — items with commas between them.

## Main results

* `readString?_quote` — **a string is read back up to its closing quotation mark.**
* `readNumber?_signed` — **a whole number of 64 bits is read back.**
* `readList?_written` — **a list of items is read back up to its closing bracket.**
-/

namespace SearchClient.Json

open Decimal
open Percent (hexValue?)

/-! ### Strings -/

theorem hexValue?_hexDigit {d : ℕ} (h : d < 16) : hexValue? (hexDigit d) = some d := by
  have hall : ∀ d < 16, hexValue? (hexDigit d) = some d := by decide
  exact hall d h

/-- The number that stands for a control character. -/
theorem readString?_number {c : Char} (h : c.toNat < 32) (cs : List Char) :
    readString? (.number none 3 0)
        ('0' :: '0' :: hexDigit (c.toNat / 16) :: hexDigit (c.toNat % 16) :: cs) =
      (readString? .text cs).map (put c) := by
  have hzero : hexValue? '0' = some 0 := by decide
  have htens := hexValue?_hexDigit (d := c.toNat / 16) (by omega)
  have hones := hexValue?_hexDigit (d := c.toNat % 16) (by omega)
  have hvalue : 16 * (16 * (16 * (16 * 0 + 0) + 0) + c.toNat / 16) + c.toNat % 16 = c.toNat := by
    omega
  -- it is no half of a pair
  have hhigh : ¬ IsHigh c.toNat := by
    intro hc
    have hle := hc.1
    omega
  have hlow : ¬ IsLow c.toNat := by
    intro hc
    have hle := hc.1
    omega
  simp only [readString?, hzero, htens, hones, hvalue, if_neg hhigh, if_neg hlow, Char.ofNat_toNat]

/-- A character is read back from what stands for it in a string. -/
theorem readString?_escape (c : Char) (cs : List Char) :
    readString? .text (escape c ++ cs) = (readString? .text cs).map (put c) := by
  have hbackslash : ∀ ds, readString? .text ('\\' :: ds) = readString? .escape ds := fun ds => rfl
  have hescaped : ∀ {e ds}, e ≠ 'u' → escaped? e = some c →
      readString? .escape (e :: ds) = (readString? .text ds).map (put c) := by
    intro e ds hu he
    rw [readString?, if_neg hu, he]
  have hofNat : ∀ {n}, c.toNat = n → Char.ofNat n = c := by
    rintro n rfl
    exact Char.ofNat_toNat c
  unfold escape
  split
  · next h => exact (hbackslash _).trans (hescaped (by decide) (by rw [h]; rfl))
  split
  · next h => exact (hbackslash _).trans (hescaped (by decide) (by rw [h]; rfl))
  split
  · next h => exact (hbackslash _).trans (hescaped (by decide) (congrArg some (hofNat h)))
  split
  · next h => exact (hbackslash _).trans (hescaped (by decide) (congrArg some (hofNat h)))
  split
  · next h => exact (hbackslash _).trans (hescaped (by decide) (congrArg some (hofNat h)))
  split
  · next h => exact (hbackslash _).trans (hescaped (by decide) (congrArg some (hofNat h)))
  split
  · next h => exact (hbackslash _).trans (hescaped (by decide) (congrArg some (hofNat h)))
  split
  · next h => exact (hbackslash _).trans (readString?_number h cs)
  · next hquote hback _ _ _ _ _ hcontrol =>
    rw [List.singleton_append, readString?, if_neg hquote, if_neg hback, if_neg hcontrol]

/-- **A string is read back up to its closing quotation mark.** -/
theorem readString?_quote (s rest : List Char) :
    readString? .text (s.flatMap escape ++ '"' :: rest) = some (s, rest) := by
  induction s with
  | nil => rfl
  | cons c s ih =>
    rw [List.flatMap_cons, List.append_assoc, readString?_escape, ih]
    rfl

/-! ### Numbers -/

/-- What may follow a value. -/
def Follows (rest : List Char) : Prop := ∀ c ∈ rest.head?, c = ',' ∨ c = ']' ∨ c = '\x7d'

theorem follows_nil : Follows [] := fun _ h => absurd h (by simp)

theorem follows_cons {c : Char} (h : c = ',' ∨ c = ']' ∨ c = '\x7d') (cs : List Char) :
    Follows (c :: cs) := by
  intro d hd
  obtain rfl : c = d := by simpa using hd
  exact h

/-- No digit, point or letter follows a value. -/
theorem Follows.ne {rest : List Char} (h : Follows rest) {c : Char} {cs : List Char}
    (hc : rest = c :: cs) : ¬ IsDigit c ∧ c ≠ '.' ∧ c ≠ 'e' ∧ c ≠ 'E' := by
  rcases h c (by rw [hc]; rfl) with rfl | rfl | rfl <;> decide

theorem takeWhile_isDigit {ds rest : List Char} (hds : ∀ d ∈ ds, IsDigit d) (h : Follows rest) :
    (ds ++ rest).takeWhile (IsDigit ·) = ds ∧ (ds ++ rest).dropWhile (IsDigit ·) = rest := by
  have hdigits : ∀ d ∈ ds, decide (IsDigit d) = true := by
    intro d hd
    exact decide_eq_true (hds d hd)
  rw [List.takeWhile_append_of_pos hdigits, List.dropWhile_append_of_pos hdigits]
  cases rest with
  | nil => exact ⟨List.append_nil ds, rfl⟩
  | cons c cs =>
    have hc := (h.ne rfl).1
    simp [hc]

/-- The digits of a numeral are read up to its end. -/
theorem readLong?_numeral {rest : List Char} (h : Follows rest) (n : ℕ) :
    readLong? 1 (numeral n ++ rest) = some (n, rest) := by
  obtain ⟨htake, hdrop⟩ := takeWhile_isDigit (fun d hd => isDigit_of_mem_numeral hd) h
  obtain ⟨d, ds, hn, -⟩ := numeral_eq_cons n
  have hlength : 1 ≤ (numeral n).length := by rw [hn]; exact Nat.succ_pos ds.length
  unfold readLong?
  rw [htake, hdrop, if_pos hlength, ofDigits?_numeral]
  rfl

/-- The digits of a numeral are read as those of a number without a fraction. -/
theorem readWhole?_numeral {rest : List Char} (h : Follows rest) (n : ℕ) :
    readWhole? (numeral n ++ rest) = some (n, rest) := by
  rcases Nat.eq_zero_or_pos n with rfl | hpos
  · rw [numeral_of_lt (by omega)]
    rfl
  · rw [← readLong?_numeral h n]
    obtain ⟨d, ds, hn, hlt, hd⟩ := numeral_eq_cons n
    refine readWhole?.eq_2 _ ?_
    intro cs hcs
    rw [hn] at hcs
    -- a numeral that starts with a zero is that of zero
    have hzero : digitValue? (digit d) = some 0 := congrArg digitValue? (List.cons.inj hcs).1
    rw [digitValue?_digit hlt] at hzero
    exact absurd (Option.some.inj hzero) (hd hpos).ne'

/-- No fraction follows a whole number. -/
theorem readFraction?_follows {rest : List Char} (h : Follows rest) :
    readFraction? rest = some ([], rest) := by
  refine readFraction?.eq_2 rest ?_
  intro cs hrest
  exact (h.ne hrest).2.1 rfl

/-- No exponent follows a whole number. -/
theorem readExponent?_follows {rest : List Char} (h : Follows rest) :
    readExponent? rest = some (none, rest) := by
  refine readExponent?.eq_3 rest ?_ ?_
  · intro cs hrest
    exact (h.ne hrest).2.2.1 rfl
  · intro cs hrest
    exact (h.ne hrest).2.2.2 rfl

theorem readMagnitude?_numeral {rest : List Char} (h : Follows rest) (negative : Bool) {n : ℕ}
    (hn : Fits (if negative then -(n : Int) else n)) :
    readMagnitude? negative (numeral n ++ rest)
      = some (.int (if negative then -(n : Int) else n), rest) := by
  simp [readMagnitude?, readWhole?_numeral h, readFraction?_follows h, readExponent?_follows h,
    ofDigits?, numberOf, hn]

/-- **A whole number of 64 bits is read back.** -/
theorem readNumber?_signed {n : Int} (hn : Fits n) {rest : List Char} (h : Follows rest) :
    readNumber? (signed n ++ rest) = some (.int n, rest) := by
  cases n with
  | ofNat n =>
    refine (readNumber?.eq_2 _ ?_).trans (readMagnitude?_numeral h false hn)
    -- a numeral starts with no sign
    intro cs hcs
    obtain ⟨d, ds, hn, hlt, -⟩ := numeral_eq_cons n
    have hdigit := isDigit_digit hlt
    rw [show signed (Int.ofNat n) = numeral n from rfl, hn] at hcs
    rw [(List.cons.inj hcs).1] at hdigit
    exact absurd hdigit (by decide)
  | negSucc n => exact readMagnitude?_numeral (n := n + 1) h true hn

/-! ### Lists -/

/-- A text that starts with no blank, and with no closing bracket. -/
def Opens (cs : List Char) : Prop :=
  ∃ c rest, cs = c :: rest ∧ isBlank c = false ∧ c ≠ ']' ∧ c ≠ '\x7d'

theorem skipBlanks_cons {c : Char} (h : isBlank c = false) (cs : List Char) :
    skipBlanks (c :: cs) = c :: cs := by
  rw [skipBlanks, List.dropWhile_cons_of_neg (by simp [h])]

/-- Items are read back that are written with commas between them. -/
theorem readItems?_written {α : Type} {close : Char} (hclose : close = ']' ∨ close = '\x7d')
    {read : Reader α} {write : α → List Char} {x : α} {xs : List α}
    (hread : ∀ y ∈ x :: xs, ∀ rest, Follows rest → read (write y ++ rest) = some (y, rest))
    {fuel : ℕ} (hfuel : xs.length ≤ fuel) (rest : List Char) :
    readItems? close read (fuel + 1)
        (write x ++ (xs.flatMap (fun y => ',' :: write y) ++ close :: rest))
      = some (x :: xs, rest) := by
  have hblank : isBlank close = false := by rcases hclose with rfl | rfl <;> rfl
  have hcomma : close ≠ ',' := by rcases hclose with rfl | rfl <;> decide
  -- every item after the first takes one of the fuel
  induction xs generalizing x fuel with
  | nil =>
    have hx := hread x List.mem_cons_self (close :: rest) (follows_cons (.inr hclose) rest)
    rw [List.flatMap_nil, List.nil_append, readItems?, hx]
    simp [skipBlanks_cons hblank]
  | cons y ys ih =>
    cases fuel with
    | zero => exact absurd hfuel (Nat.not_succ_le_zero ys.length)
    | succ fuel =>
      have hrest : ∀ z ∈ y :: ys, ∀ rest, Follows rest → read (write z ++ rest) = some (z, rest) := by
        intro z hz
        exact hread z (List.mem_cons_of_mem x hz)
      have hys := ih hrest (Nat.le_of_succ_le_succ hfuel)
      have hx := hread x List.mem_cons_self
        (',' :: (write y ++ (ys.flatMap (fun z => ',' :: write z) ++ close :: rest)))
        (follows_cons (.inl rfl) _)
      rw [List.flatMap_cons, List.append_assoc, List.cons_append, readItems?, hx]
      simp [skipBlanks_cons (by decide : isBlank ',' = false), hcomma.symm, hys]

/-- What is written for items after commas is at least as long as the list. -/
theorem length_le_length_flatMap {α : Type} (write : α → List Char) (xs : List α) :
    xs.length ≤ (xs.flatMap fun y => ',' :: write y).length := by
  induction xs with
  | nil => exact Nat.le_refl 0
  | cons x xs ih =>
    rw [List.flatMap_cons, List.length_append, List.length_cons, List.length_cons]
    omega

/-- The items of a list as they are written, with commas between them. -/
def written {α : Type} (write : α → List Char) : List α → List Char
  | [] => []
  | x :: xs => write x ++ xs.flatMap fun y => ',' :: write y

theorem length_le_length_written {α : Type} (write : α → List Char) {x : α} {xs : List α}
    (h : x ∈ xs) : (write x).length ≤ (written write xs).length := by
  cases xs with
  | nil => exact absurd h (List.not_mem_nil)
  | cons y ys =>
    rw [written, List.length_append]
    rcases List.mem_cons.1 h with rfl | h
    · exact Nat.le_add_right _ _
    · obtain ⟨before, after, rfl⟩ := List.append_of_mem h
      simp only [List.flatMap_append, List.flatMap_cons, List.length_append, List.length_cons]
      omega

/-- **A list of items is read back up to its closing bracket.** -/
theorem readList?_written {α : Type} {close : Char} (hclose : close = ']' ∨ close = '\x7d')
    {read : Reader α} {write : α → List Char} {xs : List α} (hopens : ∀ y ∈ xs, Opens (write y))
    (hread : ∀ y ∈ xs, ∀ rest, Follows rest → read (write y ++ rest) = some (y, rest))
    (rest : List Char) :
    readList? close read (written write xs ++ close :: rest) = some (xs, rest) := by
  have hblank : isBlank close = false := by rcases hclose with rfl | rfl <;> rfl
  cases xs with
  | nil => simp [written, readList?, skipBlanks_cons hblank]
  | cons x xs =>
    -- the list is not closed before its first item
    obtain ⟨c, cs, hx, hc, hbracket, hbrace⟩ := hopens x List.mem_cons_self
    have hne : c ≠ close := by rcases hclose with rfl | rfl <;> assumption
    have hitems : ∀ fuel, xs.length ≤ fuel → readItems? close read (fuel + 1)
        (write x ++ (xs.flatMap (fun y => ',' :: write y) ++ close :: rest))
          = some (x :: xs, rest) := by
      intro fuel hfuel
      exact readItems?_written hclose hread hfuel rest
    rw [hx] at hitems
    rw [written, hx, List.append_assoc, List.cons_append, readList?, skipBlanks_cons hc]
    simp only [if_neg hne]
    refine hitems _ ?_
    have hle := length_le_length_flatMap write xs
    rw [List.length_append, List.length_append]
    omega

end SearchClient.Json
