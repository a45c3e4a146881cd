import Mathlib.Tactic.Choose
import SearchClient.Proofs.Decimal.Unsigned
import SearchClient.Proofs.Text.Spelling
import SearchClient.Settings.Fields

/-!
# What is read field by field

Settings are put together in the same way wherever they come from.  Which settings come out,
and which errors, is a statement about a function from fields to values, stated here for any
reader of values.

## Main definitions

* `Field.get`, `ofFields` — the values of the fields, and settings with given values.
* `Field.default?` — the values of fields that are not given.
* `Field.Holds` — the values of fields that may be given.

## Main results

* `Reader.port_eq_ok`, `Reader.millis_eq_ok` — the numbers that any reader takes.
* `assemble_readIf_eq_ok`, `exists_assemble_readIf_eq_ok` — **the settings that come
  out.**
* `assemble_readIf_eq_error` — **the errors that come out.**
-/

namespace SearchClient

/-! ### Protocols -/

theorem Protocol.name_inj {p q : Protocol} : p.name = q.name ↔ p = q := by
  cases p <;> cases q <;> decide

/-- A protocol is called the same in data as in text. -/
theorem Protocol.tag_eq_name (p : Protocol) : p.tag = p.name := by
  cases p <;> decide

theorem Protocol.ofText?_eq_some {t : String} {p : Protocol} :
    Protocol.ofText? t = some p ↔ lowerAscii t = p.name :=
  find?_name_eq_some_iff Protocol.mem_all fun _ _ => Protocol.name_inj.1

theorem Protocol.ofTag?_eq_some {t : String} {p : Protocol} :
    Protocol.ofTag? t = some p ↔ t = p.name := by
  simp only [Protocol.ofTag?, Protocol.tag_eq_name]
  exact find?_name_eq_some_iff Protocol.mem_all fun _ _ => Protocol.name_inj.1

/-- A tag is taken in capital and small letters just as a name is. -/
theorem Protocol.ofTag?_lowerAscii (t : String) :
    Protocol.ofTag? (lowerAscii t) = Protocol.ofText? t := by
  simp only [Protocol.ofTag?, Protocol.ofText?, Protocol.tag_eq_name]

namespace Settings

open Decimal (Denotes readUnsigned readUnsigned_eq_ok_iff)

/-! ### Fields -/

namespace Field

/-- All fields, in the order in which they are read. -/
def all : List Field :=
  [.connectionTimeout, .core, .host, .port, .protocol, .socketTimeout, .softCommit]

/-- The fields that have to be given, in the order in which they are missed. -/
def required : List Field := [.host, .port, .core]

/-- The value of a field. -/
def get : (f : Field) → Settings → f.Value
  | .connectionTimeout => Settings.connectionTimeout
  | .core => Settings.core
  | .host => Settings.host
  | .port => Settings.port
  | .protocol => Settings.protocol
  | .socketTimeout => Settings.socketTimeout
  | .softCommit => Settings.softCommit

/-- What holds for a field that is not given, if it need not be given. -/
def default? : (f : Field) → Option f.Value
  | .connectionTimeout => some defaultConnectionTimeout
  | .core => none
  | .host => none
  | .port => none
  | .protocol => some defaultProtocol
  | .socketTimeout => some defaultSocketTimeout
  | .softCommit => some defaultSoftCommit

theorem mem_all (f : Field) : f ∈ all := by cases f <;> decide

theorem mem_required {f : Field} : f ∈ required ↔ f.default? = none := by
  cases f <;> simp [required, default?]

/-- The fields are read in the order of their names. -/
theorem pairwise_all : all.Pairwise fun f g => f.name < g.name := by decide +kernel

/-- Of the fields of a kind, one is read first. -/
theorem exists_first {P : Field → Prop} {f : Field} (hf : P f) :
    ∃ g, P g ∧ ∀ h : Field, h.name < g.name → ¬ P h := by
  classical
  have hsome : (all.find? fun g => P g).isSome := List.find?_isSome.2 ⟨f, mem_all f, by simpa⟩
  obtain ⟨g, hg⟩ := Option.isSome_iff_exists.1 hsome
  obtain ⟨hPg, before, after, hsplit, hbefore⟩ := List.find?_eq_some_iff_append.1 hg
  refine ⟨g, by simpa using hPg, fun h hlt => ?_⟩
  have hmem := mem_all h
  have hsorted := pairwise_all
  rw [hsplit] at hmem hsorted
  rcases List.mem_append.1 hmem with hh | hh
  · simpa using hbefore h hh
  · -- what is read later has a greater name
    exfalso
    rcases List.mem_cons.1 hh with rfl | hh
    · exact String.lt_irrefl _ hlt
    · have hgt := List.rel_of_pairwise_cons (List.pairwise_append.1 hsorted).2.1 hh
      exact String.lt_irrefl _ (String.lt_trans hlt hgt)

end Field

/-- The settings with given values of the fields. -/
def ofFields (x : (f : Field) → f.Value) : Settings where
  protocol := x .protocol
  host := x .host
  port := x .port
  core := x .core
  connectionTimeout := x .connectionTimeout
  socketTimeout := x .socketTimeout
  softCommit := x .softCommit

@[simp] theorem Field.get_ofFields (x : (f : Field) → f.Value) (f : Field) :
    f.get (ofFields x) = x f := by
  cases f <;> rfl

theorem ofFields_get (s : Settings) : ofFields (fun f => f.get s) = s := rfl

/-! ### Putting settings together -/

section Assemble

variable {ε : Type} (missing : String → ε)

variable {given : (f : Field) → Option f.Value} {read : (f : Field) → Except ε (Option f.Value)}

theorem complete_of_forall {x : (f : Field) → f.Value}
    (h : ∀ f : Field, (given f).or f.default? = some (x f)) :
    complete missing given = .ok (ofFields x) := by
  have hgetD : ∀ {α : Type} {o : Option α} {d y : α}, o.or (some d) = some y → o.getD d = y := by
    intro α o d y ho
    cases o <;> simpa using ho
  have hhost : given .host = some (x .host) := by simpa [Field.default?] using h .host
  have hport : given .port = some (x .port) := by simpa [Field.default?] using h .port
  have hcore : given .core = some (x .core) := by simpa [Field.default?] using h .core
  rw [complete, hhost, hport, hcore, hgetD (h .protocol), hgetD (h .connectionTimeout),
    hgetD (h .socketTimeout), hgetD (h .softCommit)]
  rfl

theorem complete_of_find? {f : Field}
    (h : Field.required.find? (fun f => (given f).isNone) = some f) :
    complete missing given = .error (missing f.name) := by
  unfold Field.required at h
  cases hhost : given .host with
  | none =>
    obtain rfl : Field.host = f := by simpa [hhost] using h
    rw [complete, hhost]
    rfl
  | some host =>
    cases hport : given .port with
    | none =>
      obtain rfl : Field.port = f := by simpa [hhost, hport] using h
      rw [complete, hhost, hport]
      rfl
    | some port =>
      obtain ⟨hcore, rfl⟩ : given .core = none ∧ Field.core = f := by simpa [hhost, hport] using h
      rw [complete, hhost, hport, hcore]
      rfl

/-- Either a required field is missing, or all fields have values. -/
theorem exists_missing_or_forall (given : (f : Field) → Option f.Value) :
    (∃ f, Field.required.find? (fun f => (given f).isNone) = some f) ∨
      ∃ x : (f : Field) → f.Value, ∀ f, (given f).or f.default? = some (x f) := by
  cases hfind : Field.required.find? fun f => (given f).isNone with
  | some f => exact .inl ⟨f, rfl⟩
  | none =>
    right
    have hsome : ∀ f : Field, ((given f).or f.default?).isSome := by
      intro f
      by_cases hf : f ∈ Field.required
      · have hgiven : (given f).isSome := by
          simpa [Option.isSome_iff_ne_none] using List.find?_eq_none.1 hfind f hf
        rw [Option.isSome_or, hgiven, Bool.true_or]
      · rw [Field.mem_required, ← ne_eq, Option.ne_none_iff_isSome] at hf
        rw [Option.isSome_or, hf, Bool.or_true]
    exact ⟨fun f => ((given f).or f.default?).get (hsome f), fun f => (Option.some_get _).symm⟩

/-- All fields can be read. -/
theorem assemble_of_ok (h : ∀ f, read f = .ok (given f)) :
    assemble missing read = complete missing given := by
  simp only [assemble, h]
  rfl

/-- The first field that cannot be read is the error. -/
theorem assemble_of_error {f : Field} {e : ε} (h : read f = .error e)
    (hbefore : ∀ g : Field, g.name < f.name → ∃ o, read g = .ok o) :
    assemble missing read = .error e := by
  choose given hgiven using hbefore
  -- the fields before `f` are read without an error
  have hconnection := hgiven .connectionTimeout
  have hcore := hgiven .core
  have hhost := hgiven .host
  have hport := hgiven .port
  have hprotocol := hgiven .protocol
  have hsocket := hgiven .socketTimeout
  cases f with
  | connectionTimeout => rw [assemble, h]; rfl
  | core => rw [assemble, hconnection (by decide), h]; rfl
  | host => rw [assemble, hconnection (by decide), hcore (by decide), h]; rfl
  | port =>
    rw [assemble, hconnection (by decide), hcore (by decide), hhost (by decide), h]
    rfl
  | protocol =>
    rw [assemble, hconnection (by decide), hcore (by decide), hhost (by decide),
      hport (by decide), h]
    rfl
  | socketTimeout =>
    rw [assemble, hconnection (by decide), hcore (by decide), hhost (by decide),
      hport (by decide), hprotocol (by decide), h]
    rfl
  | softCommit =>
    rw [assemble, hconnection (by decide), hcore (by decide), hhost (by decide),
      hport (by decide), hprotocol (by decide), hsocket (by decide), h]
    rfl

/-- Either all fields can be read, or one of those that cannot be read comes first. -/
theorem forall_ok_or_exists_first (read : (f : Field) → Except ε (Option f.Value)) :
    (∃ given : (f : Field) → Option f.Value, ∀ f, read f = .ok (given f)) ∨
      ∃ f e, read f = .error e ∧ ∀ g : Field, g.name < f.name → ∃ o, read g = .ok o := by
  by_cases hok : ∀ f, ∃ o, read f = .ok o
  · choose given hgiven using hok
    exact .inl ⟨given, hgiven⟩
  · obtain ⟨f, hf⟩ := not_forall.1 hok
    obtain ⟨g, hg, hfirst⟩ := Field.exists_first (P := fun f => ¬ ∃ o, read f = .ok o) hf
    right
    cases hread : read g with
    | ok o => exact absurd ⟨o, hread⟩ hg
    | error e => exact ⟨g, e, hread, fun h hlt => not_not.1 (hfirst h hlt)⟩

/-- **The settings that come out**: every field has the value that was read, or its
default if none was. -/
theorem assemble_eq_ok_iff {s : Settings} :
    assemble missing read = .ok s ↔
      ∀ f, ∃ o, read f = .ok o ∧ o.or f.default? = some (f.get s) := by
  constructor
  · intro h
    rcases forall_ok_or_exists_first read with ⟨given, hgiven⟩ | ⟨f, e, hf, hbefore⟩
    · rw [assemble_of_ok missing hgiven] at h
      rcases exists_missing_or_forall given with ⟨f, hf⟩ | ⟨x, hx⟩
      · rw [complete_of_find? missing hf] at h
        cases h
      · rw [complete_of_forall missing hx] at h
        cases h
        exact fun f => ⟨given f, hgiven f, by rw [hx, Field.get_ofFields]⟩
    · rw [assemble_of_error missing hf hbefore] at h
      cases h
  · intro h
    choose given hgiven hsettled using h
    rw [assemble_of_ok missing hgiven, complete_of_forall missing hsettled, ofFields_get]

/-- **The errors that come out**: that of the first field that cannot be read, or else
that a field is missing which has to be given. -/
theorem assemble_eq_error_iff {e : ε} :
    assemble missing read = .error e ↔
      (∃ f, read f = .error e ∧ ∀ g : Field, g.name < f.name → ∃ o, read g = .ok o) ∨
      ∃ given : (f : Field) → Option f.Value, (∀ f, read f = .ok (given f)) ∧
        ∃ f, Field.required.find? (fun f => (given f).isNone) = some f ∧
          missing f.name = e := by
  constructor
  · intro h
    rcases forall_ok_or_exists_first read with ⟨given, hgiven⟩ | ⟨f, e', hf, hbefore⟩
    · rw [assemble_of_ok missing hgiven] at h
      rcases exists_missing_or_forall given with ⟨f, hf⟩ | ⟨x, hx⟩
      · rw [complete_of_find? missing hf] at h
        exact .inr ⟨given, hgiven, f, hf, Except.error.inj h⟩
      · rw [complete_of_forall missing hx] at h
        cases h
    · rw [assemble_of_error missing hf hbefore] at h
      exact .inl ⟨f, Except.error.inj h ▸ hf, hbefore⟩
  · rintro (⟨f, hf, hbefore⟩ | ⟨given, hgiven, f, hf, rfl⟩)
    · exact assemble_of_error missing hf hbefore
    · rw [assemble_of_ok missing hgiven, complete_of_find? missing hf]

/-! ### Fields with values -/

section Values

variable {α : Type} (decode : (f : Field) → α → Except ε f.Value) (value : Field → Option α)

/-- `x` is accepted for the value of a field, or is the default of a field without
one. -/
def Field.Holds (f : Field) (accepts : α → f.Value → Prop) : Option α → f.Value → Prop
  | some v, x => accepts v x
  | none, x => f.default? = some x

theorem exists_readIf_eq_ok {β : Type} {read : α → Except ε β} {o : Option α} :
    (∃ y, readIf read o = .ok y) ↔ ∀ v, o = some v → ∃ x, read v = .ok x := by
  cases o with
  | none => simp [readIf]
  | some v => cases hv : read v <;> simp [readIf, hv, Except.map]

theorem readIf_eq_error {β : Type} {read : α → Except ε β} {o : Option α} {e : ε} :
    readIf read o = .error e ↔ ∃ v, o = some v ∧ read v = .error e := by
  cases o with
  | none => simp [readIf]
  | some v => cases hv : read v <;> simp [readIf, hv, Except.map]

theorem isNone_of_readIf {β : Type} {read : α → Except ε β} {o : Option α} {y : Option β}
    (h : readIf read o = .ok y) : y.isNone = o.isNone := by
  cases o with
  | none => cases h; rfl
  | some v =>
    cases hv : read v with
    | error e => rw [readIf, hv] at h; cases h
    | ok x => rw [readIf, hv] at h; cases h; rfl

theorem holds_iff_readIf {f : Field} {o : Option α} {x : f.Value} :
    f.Holds (fun v x => decode f v = .ok x) o x ↔
      ∃ y, readIf (decode f) o = .ok y ∧ y.or f.default? = some x := by
  cases o with
  | none => simp [Field.Holds, readIf]
  | some v => cases hv : decode f v <;> simp [Field.Holds, readIf, hv, Except.map]

/-- **The settings that come out**: every field has what its value is read as, or its
default if there is no value. -/
theorem assemble_readIf_eq_ok {s : Settings} :
    assemble missing (fun f => readIf (decode f) (value f)) = .ok s ↔
      ∀ f : Field, f.Holds (fun v x => decode f v = .ok x) (value f) (f.get s) := by
  rw [assemble_eq_ok_iff]
  exact forall_congr' fun f => (holds_iff_readIf decode).symm

/-- **Settings come out** exactly if the required fields have values and every value
can be read. -/
theorem exists_assemble_readIf_eq_ok :
    (∃ s, assemble missing (fun f => readIf (decode f) (value f)) = .ok s) ↔
      (∀ f ∈ Field.required, (value f).isSome) ∧
        ∀ f v, value f = some v → ∃ x, decode f v = .ok x := by
  simp only [assemble_readIf_eq_ok]
  constructor
  · rintro ⟨s, hs⟩
    refine ⟨fun f hf => ?_, fun f v hv => ?_⟩
    · cases hv : value f with
      | some v => rfl
      | none =>
        have hdefault := hs f
        rw [hv, Field.Holds, Field.mem_required.1 hf] at hdefault
        cases hdefault
    · have hread := hs f
      rw [hv] at hread
      exact ⟨f.get s, hread⟩
  · rintro ⟨hrequired, hread⟩
    have hholds : ∀ f : Field, ∃ x, f.Holds (fun v x => decode f v = .ok x) (value f) x := by
      intro f
      cases hv : value f with
      | some v => exact hread f v hv
      | none =>
        have hf : f ∉ Field.required := fun hf => by simpa [hv] using hrequired f hf
        rw [Field.mem_required, ← ne_eq, Option.ne_none_iff_exists'] at hf
        exact hf
    choose x hx using hholds
    exact ⟨ofFields x, fun f => by rw [Field.get_ofFields]; exact hx f⟩

/-- **The errors that come out**: that of the value with the least name among those
that cannot be read, or else that a required field has no value. -/
theorem assemble_readIf_eq_error {e : ε} :
    assemble missing (fun f => readIf (decode f) (value f)) = .error e ↔
      (∃ f v, value f = some v ∧ decode f v = .error e ∧
        ∀ g w, Field.name g < f.name → value g = some w → ∃ x, decode g w = .ok x) ∨
      ((∀ f v, value f = some v → ∃ x, decode f v = .ok x) ∧
        ∃ f, Field.required.find? (fun f => (value f).isNone) = some f ∧ missing f.name = e) := by
  rw [assemble_eq_error_iff]
  refine or_congr ?_ ?_
  · -- the first value that cannot be read
    simp only [readIf_eq_error, exists_readIf_eq_ok]
    exact exists_congr fun f =>
      ⟨fun ⟨⟨v, hv, he⟩, h⟩ => ⟨v, hv, he, fun g w hlt => h g hlt w⟩,
        fun ⟨v, hv, he, h⟩ => ⟨⟨v, hv, he⟩, fun g hlt w => h g w hlt⟩⟩
  · -- a field is missing if its value is
    constructor
    · rintro ⟨given, hgiven, f, hf, rfl⟩
      have hisNone : ∀ f, (given f).isNone = (value f).isNone := fun f =>
        isNone_of_readIf (hgiven f)
      simp only [hisNone] at hf
      exact ⟨fun f => exists_readIf_eq_ok.1 ⟨_, hgiven f⟩, f, hf, rfl⟩
    · rintro ⟨hread, f, hf, rfl⟩
      choose given hgiven using fun f => exists_readIf_eq_ok.2 (hread f)
      have hisNone : ∀ f, (given f).isNone = (value f).isNone := fun f =>
        isNone_of_readIf (hgiven f)
      simp only [← hisNone] at hf
      exact ⟨given, hgiven, f, hf, rfl⟩

end Values

end Assemble

/-! ### Numbers -/

namespace Reader

variable {ε α : Type} (r : Reader ε α) {name : String} {v : α}

theorem unsigned_eq_ok {limit n : ℕ} :
    r.unsigned limit name v = .ok n ↔
      ∃ t, r.string name v = .ok t ∧ Denotes t.toList n ∧ n ≤ limit := by
  have hmap (t : String) : (readUnsigned limit t.toList).mapError r.badInteger = .ok n ↔
      Denotes t.toList n ∧ n ≤ limit := by
    rw [← readUnsigned_eq_ok_iff]
    cases readUnsigned limit t.toList with
    | error e => exact iff_of_false (by rintro ⟨⟩) (by rintro ⟨⟩)
    | ok m =>
      constructor
      · rintro ⟨⟩
        rfl
      · rintro ⟨⟩
        rfl
  show (r.string name v).bind _ = _ ↔ _
  cases r.string name v with
  | error e => simp [Except.bind]
  | ok t => simp [Except.bind, hmap]

/-- A number that is read at a limit and then taken for a machine number. -/
theorem map_unsigned_eq_ok {β : Type} {limit : ℕ} {ofNat : ℕ → β} {x : β} :
    (r.unsigned limit name v).map ofNat = .ok x ↔
      ∃ t n, r.string name v = .ok t ∧ Denotes t.toList n ∧ n ≤ limit ∧ x = ofNat n := by
  have hmap : (r.unsigned limit name v).map ofNat = .ok x ↔
      ∃ n, r.unsigned limit name v = .ok n ∧ x = ofNat n := by
    cases r.unsigned limit name v <;> simp [Except.map, eq_comm]
  simp only [hmap, unsigned_eq_ok]
  constructor
  · rintro ⟨n, ⟨t, hv, ht, hn⟩, hx⟩
    exact ⟨t, n, hv, ht, hn, hx⟩
  · rintro ⟨t, n, hv, ht, hn, hx⟩
    exact ⟨n, ⟨t, hv, ht, hn⟩, hx⟩

/-- **The texts that are read as port numbers.** -/
theorem port_eq_ok {x : UInt16} :
    r.port name v = .ok x ↔ ∃ t n, r.string name v = .ok t ∧ Denotes t.toList n ∧ n ≤ 65535 ∧
      x = UInt16.ofNat n :=
  r.map_unsigned_eq_ok

/-- **The texts that are read as numbers of milliseconds.** -/
theorem millis_eq_ok {x : UInt64} :
    r.millis name v = .ok x ↔ ∃ t n, r.string name v = .ok t ∧ Denotes t.toList n ∧
      n ≤ 18446744073709551615 ∧ x = UInt64.ofNat n :=
  r.map_unsigned_eq_ok

end Reader

end Settings

end SearchClient
