import SearchClient.Proofs.Settings.Fields
import SearchClient.Settings.Decode

/-!
# The objects that hold settings

Which objects settings are read from, what they are read as, and which error is
reported for the others.

The protocol has two forms.  Besides its name as a string there is an object with
the name as the key of its only member, which holds `null`.

## Main definitions

* `Field.Accepts` — the form of the values of a field.

## Main results

* `Field.decode_eq_ok` — **a field is read from values of its form.**
* `ofMembers_iff` — **the objects that hold settings, and the errors of the others.**
* `ofMembers_enclosedProtocol` — settings with a protocol that is no string.
-/

namespace SearchClient

open Decimal (Denotes)

/-- Keys that are kept are found as before. -/
theorem Members.get?_filter (kept : String → Bool) {key : String} (hkey : kept key) (ms : Members) :
    get? key (ms.filter fun m => kept m.1) = ms.get? key := by
  induction ms with
  | nil => rfl
  | cons m ms ih =>
    obtain ⟨k, v⟩ := m
    rw [List.filter_cons]
    by_cases hk : kept k
    · rw [if_pos hk, Members.get?_cons, Members.get?_cons, ih]
    · have hne : k ≠ key := fun h => hk (h ▸ hkey)
      rw [if_neg hk, Members.get?_cons, if_neg hne, ih]

namespace Decode

/-! ### Values of one kind -/

theorem string_eq_ok {v : Json} {s : String} : string v = .ok s ↔ v = .string s := by
  cases v <;> simp [string]

theorem bool_eq_ok {v : Json} {b : Bool} : bool v = .ok b ↔ v = .bool b := by
  cases v <;> simp [bool]

theorem protocolName_eq_ok {t : String} {p : Protocol} : protocolName t = .ok p ↔ t = p.name := by
  rw [← Protocol.ofTag?_eq_some, protocolName]
  cases Protocol.ofTag? t <;> simp

/-- A protocol is read from its name, alone or with `null` under it. -/
theorem protocol_eq_ok {v : Json} {p : Protocol} :
    protocol v = .ok p ↔ v = .string p.name ∨ v = .object [(p.name, .null)] := by
  cases v with
  | string t => simpa [protocol] using protocolName_eq_ok
  | object ms =>
    match ms with
    | [] => simp [protocol]
    | [(t, w)] =>
      have hread : protocol (.object [(t, w)]) = (protocolName t).bind fun q =>
          if w.isNull then .ok q else .error (.wrongKind w "unit") := rfl
      have hnull : w.isNull = true ↔ w = .null := by cases w <;> simp [Json.isNull]
      rw [hread]
      cases hname : protocolName t with
      | error e =>
        refine iff_of_false (by simp [Except.bind]) ?_
        rintro (h | h)
        · cases h
        · obtain ⟨rfl, -⟩ : t = p.name ∧ w = .null := by simpa using h
          rw [protocolName_eq_ok.2 rfl] at hname
          cases hname
      | ok q =>
        rw [protocolName_eq_ok] at hname
        by_cases hw : w = .null
        · simp [Except.bind, Json.isNull, hw, hname, Protocol.name_inj]
        · simp [Except.bind, hnull, hw]
    | _ :: _ :: _ => simp [protocol]
  | _ => simp [protocol]

end Decode

namespace Settings

namespace Field

/-- The form of the values of a field: strings, strings of digits within bounds, and
truth values.  A protocol is its name, or an object with `null` under the name. -/
def Accepts : (f : Field) → Json → f.Value → Prop
  | .connectionTimeout, v, x =>
    ∃ t n, v = .string t ∧ Denotes t.toList n ∧ n ≤ 18446744073709551615 ∧ x = UInt64.ofNat n
  | .core, v, x => v = .string x
  | .host, v, x => v = .string x
  | .port, v, x => ∃ t n, v = .string t ∧ Denotes t.toList n ∧ n ≤ 65535 ∧ x = UInt16.ofNat n
  | .protocol, v, x => v = .string x.name ∨ v = .object [(x.name, .null)]
  | .socketTimeout, v, x =>
    ∃ t n, v = .string t ∧ Denotes t.toList n ∧ n ≤ 18446744073709551615 ∧ x = UInt64.ofNat n
  | .softCommit, v, x => v = .bool x

/-- **A field is read from values of its form**, and from no others. -/
theorem decode_eq_ok {f : Field} {v : Json} {x : f.Value} :
    f.decode v = .ok x ↔ f.Accepts v x := by
  -- a number is read from a string
  have hstring {name t : String} : Decode.reader.string name v = .ok t ↔ v = .string t :=
    Decode.string_eq_ok
  cases f with
  | connectionTimeout =>
    exact Decode.reader.millis_eq_ok.trans (exists₂_congr fun _ _ => and_congr_left' hstring)
  | core => exact Decode.string_eq_ok
  | host => exact Decode.string_eq_ok
  | port =>
    exact Decode.reader.port_eq_ok.trans (exists₂_congr fun _ _ => and_congr_left' hstring)
  | protocol => exact Decode.protocol_eq_ok
  | socketTimeout =>
    exact Decode.reader.millis_eq_ok.trans (exists₂_congr fun _ _ => and_congr_left' hstring)
  | softCommit => exact Decode.bool_eq_ok

end Field

/-- Settings are put together from the members under the names of the fields. -/
theorem ofMembers_eq_assemble (ms : Members) :
    ofMembers ms = assemble .missing fun f => readIf f.decode (ms.get? f.name) := rfl

/-! ### Objects -/

/-- Members under the names of fields are all that is read. -/
theorem ofMembers_filter (ms : Members) :
    ofMembers (ms.filter fun m => m.1 ∈ Field.all.map Field.name) = ofMembers ms := by
  have hget : ∀ f : Field, Members.get? f.name (ms.filter fun m => m.1 ∈ Field.all.map Field.name)
      = ms.get? f.name := by
    intro f
    have hkept : f.name ∈ Field.all.map Field.name := List.mem_map_of_mem (Field.mem_all f)
    exact Members.get?_filter (fun k => k ∈ Field.all.map Field.name) (decide_eq_true hkept) ms
  simp only [ofMembers_eq_assemble, hget]

/-- **The objects that hold settings**: the required fields are there, and every field
that is there has its form.  **The settings** are what the forms say, and defaults
for the fields that are not there.  **The errors** of the other objects: that of the
least key whose value has not its form, or else the first required field that is
not there.  Members under other keys do not matter. -/
theorem ofMembers_iff (ms : Members) :
    ((∃ s, ofMembers ms = .ok s) ↔
      (∀ f ∈ Field.required, (ms.get? f.name).isSome) ∧
        ∀ f v, ms.get? (Field.name f) = some v → ∃ x, f.Accepts v x) ∧
    (∀ s, ofMembers ms = .ok s ↔ ∀ f : Field, f.Holds f.Accepts (ms.get? f.name) (f.get s)) ∧
    (∀ e, ofMembers ms = .error e ↔
      (∃ f v, ms.get? (Field.name f) = some v ∧ f.decode v = .error e ∧
        ∀ g w, Field.name g < f.name → ms.get? g.name = some w → ∃ x, g.Accepts w x) ∨
      ((∀ f v, ms.get? (Field.name f) = some v → ∃ x, f.Accepts v x) ∧
        ∃ f, Field.required.find? (fun f => (ms.get? f.name).isNone) = some f ∧
          DecodeError.missing f.name = e ∧ e.message = "missing field `" ++ f.name ++ "`")) ∧
    ofMembers (ms.filter fun m => m.1 ∈ Field.all.map Field.name) = ofMembers ms := by
  have haccepts : ∀ f : Field, (fun v x => f.decode v = .ok x) = f.Accepts := fun f =>
    funext₂ fun v x => propext Field.decode_eq_ok
  refine ⟨?_, fun s => ?_, fun e => ?_, ofMembers_filter ms⟩
  · rw [ofMembers_eq_assemble, exists_assemble_readIf_eq_ok]
    simp only [Field.decode_eq_ok]
  · rw [ofMembers_eq_assemble, assemble_readIf_eq_ok]
    simp only [haccepts]
  · have hmessage : ∀ f : Field, DecodeError.missing f.name = e →
        e.message = "missing field `" ++ f.name ++ "`" := by
      rintro f rfl
      rfl
    rw [ofMembers_eq_assemble, assemble_readIf_eq_error]
    simp only [Field.decode_eq_ok, and_iff_left_of_imp (hmessage _)]

/-- An object with a protocol that is an object itself. -/
def enclosedProtocol : Members :=
  [("core", .string "c"), ("host", .string "h"), ("port", .string "8983"),
    ("protocol", .object [("http", .null)])]

/-- Settings are read from it, although its protocol is not the name of one. -/
theorem ofMembers_enclosedProtocol :
    (∃ s, ofMembers enclosedProtocol = .ok s) ∧
      ∃ v, enclosedProtocol.get? "protocol" = some v ∧ ∀ p : Protocol, v ≠ .string p.name := by
  refine ⟨⟨_, rfl⟩, _, rfl, fun p h => ?_⟩
  cases h

end Settings

end SearchClient
