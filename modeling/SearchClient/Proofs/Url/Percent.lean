import Mathlib.Data.List.Basic
import SearchClient.Url.Percent

/-!
# Percent encoding loses nothing

Decoding undoes encoding, byte by byte, for texts in all of Unicode.  What is
encoded keeps to a small alphabet, so that no mark with a meaning in a URL can
come out of the text that was put in.

## Main definitions

* `Percent.Encoded` — texts of unreserved characters and escapes.
* `Percent.decodeBytes?`, `Percent.decode?` — percent decoding.

## Main results

* `Percent.encoded_encode` — what is encoded has that form.
* `Percent.decode?_encode` — **decoding gives back what was encoded.**
* `Percent.decode?_encode_append` — it does so only if nothing else follows.
-/

namespace SearchClient.Percent

/-! ### The form of an encoded text -/

/-- A character that stands for itself. -/
def IsUnreservedChar (c : Char) : Prop := c.isAlphanum = true ∨ c ∈ ['-', '.', '_', '~']

/-- A digit of an escape, in upper case. -/
def IsEscapeDigit (c : Char) : Prop := c ∈ "0123456789ABCDEF".toList

/-- Texts of unreserved characters and of escapes in upper case. -/
inductive Encoded : List Char → Prop
  /-- The empty text. -/
  | nil : Encoded []
  /-- A character that stands for itself. -/
  | plain {c : Char} {cs : List Char} (hc : IsUnreservedChar c) (h : Encoded cs) : Encoded (c :: cs)
  /-- A byte as two digits. -/
  | escape {d e : Char} {cs : List Char} (hd : IsEscapeDigit d) (he : IsEscapeDigit e)
      (h : Encoded cs) : Encoded ('%' :: d :: e :: cs)

instance (c : Char) : Decidable (IsUnreservedChar c) := by
  unfold IsUnreservedChar
  infer_instance

instance (c : Char) : Decidable (IsEscapeDigit c) := by
  unfold IsEscapeDigit
  infer_instance

theorem Encoded.append {cs ds : List Char} (h : Encoded cs) (h' : Encoded ds) :
    Encoded (cs ++ ds) := by
  induction h with
  | nil => exact h'
  | plain hc _ ih => exact .plain hc ih
  | escape hd he _ ih => exact .escape hd he ih

theorem isUnreservedChar_of_isEscapeDigit {c : Char} (h : IsEscapeDigit c) :
    IsUnreservedChar c := by
  have hall : ("0123456789ABCDEF".toList.all fun d => IsUnreservedChar d) = true := by decide
  exact of_decide_eq_true (List.all_eq_true.1 hall c h)

/-- Every character of an encoded text is unreserved or the mark of an escape. -/
theorem Encoded.isUnreservedChar_or_eq {cs : List Char} (h : Encoded cs) :
    ∀ c ∈ cs, IsUnreservedChar c ∨ c = '%' := by
  induction h with
  | nil => simp
  | plain hc _ ih => exact List.forall_mem_cons.2 ⟨.inl hc, ih⟩
  | escape hd he _ ih =>
    exact List.forall_mem_cons.2 ⟨.inr rfl, List.forall_mem_cons.2
      ⟨.inl (isUnreservedChar_of_isEscapeDigit hd), List.forall_mem_cons.2
        ⟨.inl (isUnreservedChar_of_isEscapeDigit he), ih⟩⟩⟩

/-- A mark that separates parts of a URL does not occur in an encoded text. -/
theorem Encoded.notMem {cs : List Char} (h : Encoded cs) {c : Char} (hc : ¬ IsUnreservedChar c)
    (hp : c ≠ '%') : c ∉ cs := fun hmem =>
  (h.isUnreservedChar_or_eq c hmem).elim hc hp

/-- A byte below sixteen is written as a digit of an escape. -/
theorem isEscapeDigit_hexDigit : ∀ d < 16, IsEscapeDigit (hexDigit d) := by decide

/-- The character of an unreserved byte. -/
theorem isUnreservedChar_ofNat {b : UInt8} (h : isUnreserved b = true) :
    IsUnreservedChar (Char.ofNat b.toNat) := by
  have hall : ∀ n < 256, isUnreserved (UInt8.ofNat n) = true → IsUnreservedChar (Char.ofNat n) := by
    decide +kernel
  have := hall b.toNat b.toNat_lt
  rw [UInt8.ofNat_toNat] at this
  exact this h

theorem encoded_encodeByte (b : UInt8) : Encoded (encodeByte b) := by
  have hb : b.toNat < 256 := b.toNat_lt
  unfold encodeByte
  split
  · next h => exact .plain (isUnreservedChar_ofNat h) .nil
  · exact .escape (isEscapeDigit_hexDigit _ (by omega)) (isEscapeDigit_hexDigit _ (by omega)) .nil

/-- **An encoded text consists of unreserved characters and escapes.** -/
theorem encoded_encode (s : String) : Encoded (encode s).toList := by
  rw [encode, String.toList_ofList]
  induction bytes s with
  | nil => exact .nil
  | cons b bs ih =>
    rw [List.flatMap_cons]
    exact (encoded_encodeByte b).append ih

/-! ### Decoding -/

/-- The value of a hexadecimal digit in either case. -/
def hexValue? (c : Char) : Option ℕ :=
  if '0' ≤ c ∧ c ≤ '9' then some (c.toNat - '0'.toNat)
  else if 'A' ≤ c ∧ c ≤ 'F' then some (c.toNat - 'A'.toNat + 10)
  else if 'a' ≤ c ∧ c ≤ 'f' then some (c.toNat - 'a'.toNat + 10)
  else none

/-- The bytes of a percent-encoded text.  A percent sign has to start an escape,
and the other characters have to be single bytes. -/
def decodeBytes? : List Char → Option (List UInt8)
  | [] => some []
  | '%' :: d :: e :: cs => do
    let high ← hexValue? d
    let low ← hexValue? e
    let bs ← decodeBytes? cs
    return UInt8.ofNat (16 * high + low) :: bs
  | c :: cs =>
    if c = '%' ∨ 128 ≤ c.toNat then none
    else (decodeBytes? cs).map (UInt8.ofNat c.toNat :: ·)

/-- The text whose UTF-8 form a percent-encoded text stands for. -/
def decode? (s : String) : Option String :=
  (decodeBytes? s.toList).bind fun bs => String.fromUTF8? ⟨bs.toArray⟩

theorem hexValue?_hexDigit : ∀ d < 16, hexValue? (hexDigit d) = some d := by decide

/-- An unreserved byte is the character of its own number. -/
theorem toNat_ofNat_of_isUnreserved {b : UInt8} (h : isUnreserved b = true) :
    (Char.ofNat b.toNat).toNat = b.toNat ∧ b.toNat < 128 ∧ Char.ofNat b.toNat ≠ '%' := by
  have hall : ∀ n < 256, isUnreserved (UInt8.ofNat n) = true →
      (Char.ofNat n).toNat = n ∧ n < 128 ∧ Char.ofNat n ≠ '%' := by decide +kernel
  have := hall b.toNat b.toNat_lt
  rw [UInt8.ofNat_toNat] at this
  exact this h

/-- **The text of one byte is decoded to that byte.** -/
theorem decodeBytes?_encodeByte (b : UInt8) (cs : List Char) :
    decodeBytes? (encodeByte b ++ cs) = (decodeBytes? cs).map (b :: ·) := by
  have hb : b.toNat < 256 := b.toNat_lt
  unfold encodeByte
  split
  · -- an unreserved byte stands for itself
    next h =>
    obtain ⟨hn, hlt, hp⟩ := toNat_ofNat_of_isUnreserved h
    have hsingle : ¬ (Char.ofNat b.toNat = '%' ∨ 128 ≤ (Char.ofNat b.toNat).toNat) := by
      rw [hn, not_or]
      exact ⟨hp, by omega⟩
    rw [List.cons_append, List.nil_append, decodeBytes?]
    · rw [if_neg hsingle, hn, UInt8.ofNat_toNat]
    · intro d e ds hd
      exact absurd hd hp
  · -- any other byte is put together from its two digits
    have hhigh := hexValue?_hexDigit (b.toNat / 16) (by omega)
    have hlow := hexValue?_hexDigit (b.toNat % 16) (by omega)
    have hval : UInt8.ofNat (16 * (b.toNat / 16) + b.toNat % 16) = b := by
      rw [Nat.div_add_mod, UInt8.ofNat_toNat]
    simp only [List.cons_append, List.nil_append, decodeBytes?, hhigh, hlow]
    cases decodeBytes? cs with
    | none => rfl
    | some bs => exact congrArg (fun x => some (x :: bs)) hval

/-- What stands behind an encoded text is decoded on its own. -/
theorem decodeBytes?_encode_append (bs : List UInt8) (cs : List Char) :
    decodeBytes? (bs.flatMap encodeByte ++ cs) = (decodeBytes? cs).map (bs ++ ·) := by
  induction bs with
  | nil => simp
  | cons b bs ih =>
    rw [List.flatMap_cons, List.append_assoc, decodeBytes?_encodeByte, ih, Option.map_map]
    rfl

theorem decodeBytes?_encode (bs : List UInt8) :
    decodeBytes? (bs.flatMap encodeByte) = some bs := by
  simpa [decodeBytes?] using decodeBytes?_encode_append bs []

/-- Only the empty text stands for no byte. -/
theorem decodeBytes?_eq_some_nil {cs : List Char} : decodeBytes? cs = some [] ↔ cs = [] := by
  constructor
  · intro h
    cases cs with
    | nil => rfl
    | cons c cs =>
      unfold decodeBytes? at h
      split at h
      · next hnil => cases hnil
      · next d e ds hc =>
        simp [Option.bind_eq_some_iff] at h
      · next c' cs' hc heq =>
        split at h
        · cases h
        · simp at h
  · rintro rfl
    rfl

/-- A text is read from the bytes of its UTF-8 form. -/
theorem fromUTF8?_bytes (s : String) : String.fromUTF8? ⟨(bytes s).toArray⟩ = some s := by
  have harray : (⟨(bytes s).toArray⟩ : ByteArray) = s.toByteArray := by
    rw [bytes, Array.toArray_toList]
    rfl
  rw [harray, String.fromUTF8?, dif_pos s.isValidUTF8]
  rfl

/-- **Decoding gives back what was encoded**, for every text. -/
theorem decode?_encode (s : String) : decode? (encode s) = some s := by
  rw [decode?, encode, String.toList_ofList, decodeBytes?_encode]
  exact fromUTF8?_bytes s

/-- The bytes from which a text is read are those of its UTF-8 form. -/
theorem bytes_of_fromUTF8? {bs : List UInt8} {s : String}
    (h : String.fromUTF8? ⟨bs.toArray⟩ = some s) : bytes s = bs := by
  unfold String.fromUTF8? at h
  split at h
  · obtain rfl := Option.some.inj h
    rfl
  · cases h

/-- **Nothing may stand behind an encoded text**: whatever it is, the text is then not
got back. -/
theorem decode?_encode_append {s t : String} : decode? (encode s ++ t) = some s ↔ t = "" := by
  have hbytes : decodeBytes? (encode s ++ t).toList
      = (decodeBytes? t.toList).map (bytes s ++ ·) := by
    rw [encode, String.toList_append, String.toList_ofList, decodeBytes?_encode_append]
  constructor
  · intro h
    rw [decode?, hbytes] at h
    obtain ⟨bs, hbs, hs⟩ := Option.bind_eq_some_iff.1 h
    obtain ⟨cs, hcs, rfl⟩ := Option.map_eq_some_iff.1 hbs
    -- the bytes of the text are all that there is, so none is left for what follows
    have hnil : cs = [] := List.self_eq_append_right.1 (bytes_of_fromUTF8? hs)
    rw [hnil, decodeBytes?_eq_some_nil] at hcs
    exact String.toList_inj.1 hcs
  · rintro rfl
    rw [String.append_empty]
    exact decode?_encode s

end SearchClient.Percent
