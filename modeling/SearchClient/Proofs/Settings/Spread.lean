import SearchClient.Proofs.Settings.Decode
import SearchClient.Proofs.Settings.Layers

/-!
# Settings of an object in layers

Settings that an object holds may as well be given in layers: in a base file with the same
values under the same names, and in variables for some of the values that are strings.
The object is decoded and the layers are converted, and both give the same settings.
A value may look different in the two: what is decoded is a JSON value, what is converted
is a configuration value that mirrors it.

## Main definitions

* `Json.Mirrors` — JSON values and the configuration values that say the same.
* `Field.variableName` — the variable that holds a field.
* `Spread` — a base layer and variables that hold the members of an object between them.

## Main results

* `Field.converts_of_mirrors` — a value is converted to what its mirrored one is decoded to.
* `Spread.given_eq` — every field is given by what mirrors its member, wherever that is.
* `Spread.readFrom_eq_ok` — **settings are read from layers as from the object.**
-/

namespace SearchClient

open Text (lowercase)

/-! ### Values that mirror each other -/

mutual

/-- A JSON value and a configuration value that say the same. -/
inductive Json.Mirrors : Json → Node → Prop
  /-- No value. -/
  | null : Mirrors .null .null
  /-- A truth value. -/
  | bool (b : Bool) : Mirrors (.bool b) (.bool b)
  /-- A string, which stays a text whatever it looks like. -/
  | string (s : String) : Mirrors (.string s) (.text s)
  /-- An object and a table with the same names. -/
  | object {ms : List (String × Json)} {es : List (String × Node)} (h : MirrorsMembers ms es) :
    Mirrors (.object ms) (.table es)

/-- Members and entries with the same names, whose values mirror each other. -/
inductive Json.MirrorsMembers : List (String × Json) → List (String × Node) → Prop
  /-- No members. -/
  | nil : MirrorsMembers [] []
  /-- A member before others. -/
  | cons (name : String) {v : Json} {w : Node} {ms : List (String × Json)}
      {es : List (String × Node)} (h : Mirrors v w) (hs : MirrorsMembers ms es) :
    MirrorsMembers ((name, v) :: ms) ((name, w) :: es)

end

/-! ### Looking up -/

theorem Members.mem_keys_of_isSome {ms : Members} {key : String} (h : (ms.get? key).isSome) :
    key ∈ ms.keys := by
  induction ms with
  | nil => cases h
  | cons m ms ih =>
    obtain ⟨k, v⟩ := m
    rw [Members.get?_cons] at h
    by_cases hk : k = key
    · rw [← hk]
      exact List.mem_cons_self
    · rw [if_neg hk] at h
      exact List.mem_cons_of_mem k (ih h)

/-- With names that are distinct, every entry is found. -/
theorem Entries.get?_of_mem {es : Entries} (h : es.names.Nodup) {e : String × Node} (he : e ∈ es) :
    es.get? e.1 = some e.2 := by
  induction es with
  | nil => cases he
  | cons e' es ih =>
    obtain ⟨hnot, hes⟩ := List.nodup_cons.1 h
    rcases List.mem_cons.1 he with rfl | he
    · exact if_pos rfl
    · have hne : e'.1 ≠ e.1 := fun heq => hnot (heq ▸ List.mem_map_of_mem he)
      exact (if_neg hne).trans (ih hes he)

/-- Names in lower case are looked up as they are. -/
theorem Entries.defined?_eq_get? {es : Entries} (h : ∀ n ∈ es.names, lowercase n = n)
    (name : String) : es.defined? name = es.get? name := by
  induction es with
  | nil => rfl
  | cons e es ih =>
    obtain ⟨k, v⟩ := e
    have hk : lowercase k = k := h k List.mem_cons_self
    rw [defined?, hk, ih fun n hn => h n (List.mem_cons_of_mem k hn)]
    rfl

namespace Variables

/-- The variables that hold settings. -/
def settingVariables (vs : Variables) : Variables := vs.filter fun v => (settingName? v.1).isSome

/-- No other variables matter for settings. -/
theorem settings_settingVariables (vs : Variables) :
    settings vs.settingVariables = vs.settings := by
  unfold settings settingVariables
  rw [List.filterMap_filter]
  refine List.filterMap_congr fun v _ => ?_
  cases hv : settingName? v.1 <;> simp [hv]

/-- A setting is found in the one variable for it. -/
theorem setting?_eq_some {vs : Variables} (h : vs.Plain) {name text : String} :
    vs.setting? name = some text ↔
      ∃ k, (k, text) ∈ vs ∧ (lowercase k).toList = settingsLead ++ name.toList := by
  induction vs with
  | nil => simp [setting?]
  | cons v vs ih =>
    obtain ⟨k, t⟩ := v
    rw [setting?]
    by_cases hk : (lowercase k).toList = settingsLead ++ name.toList
    · rw [if_pos hk, Option.some.injEq]
      constructor
      · rintro rfl
        exact ⟨k, List.mem_cons_self, hk⟩
      · rintro ⟨k', hmem, hk'⟩
        rcases List.mem_cons.1 hmem with heq | hmem
        · exact (Prod.mk.inj heq).2.symm
        · -- no other variable has the name
          have hsame : lowercase k' = lowercase k := String.toList_inj.1 (hk'.trans hk.symm)
          have hin : lowercase k' ∈ vs.map fun v => lowercase v.1 :=
            List.mem_map.2 ⟨(k', text), hmem, rfl⟩
          rw [hsame] at hin
          exact absurd hin (List.nodup_cons.1 h.nodup).1
    · rw [if_neg hk, ih h.tail]
      constructor
      · rintro ⟨k', hmem, hk'⟩
        exact ⟨k', List.mem_cons_of_mem _ hmem, hk'⟩
      · rintro ⟨k', hmem, hk'⟩
        rcases List.mem_cons.1 hmem with heq | hmem
        · rw [(Prod.mk.inj heq).1] at hk'
          exact absurd hk' hk
        · exact ⟨k', hmem, hk'⟩

end Variables

namespace Settings

/-! ### Fields -/

namespace Field

/-- The variable that holds a field: its name in capital letters, after `SOLR_`. -/
def variableName (f : Field) : String :=
  String.ofList ("SOLR_".toList ++ f.name.toList.map Char.toUpper)

theorem toList_lowercase_variableName (f : Field) :
    (lowercase f.variableName).toList = Variables.settingsLead ++ f.name.toList := by
  cases f <;> decide +kernel

theorem name_inj {f g : Field} : f.name = g.name ↔ f = g := by
  cases f <;> cases g <;> decide

theorem lowercase_name (f : Field) : lowercase f.name = f.name :=
  Variables.lowercase_setting f.toList_lowercase_variableName

/-- The names of fields are no paths. -/
theorem plain_name (f : Field) :
    ¬ ['_', '_'] <:+: f.name.toList ∧ '.' ∉ f.name.toList ∧ '[' ∉ f.name.toList := by
  cases f <;> decide +kernel

theorem holds_decode {f : Field} {o : Option Json} {x : f.Value} :
    f.Holds (fun v x => f.decode v = .ok x) o x ↔ f.Holds f.Accepts o x := by
  cases o with
  | none => exact Iff.rfl
  | some v => exact decode_eq_ok

/-- What mirrors the value of a field is no empty table. -/
theorem ne_empty_of_mirrors {f : Field} {v : Json} {w : Node} {x : f.Value} (hx : f.Accepts v x)
    (h : v.Mirrors w) : w ≠ .table [] := by
  rintro rfl
  cases h with
  | object h =>
    cases h
    cases f <;> simp [Accepts] at hx

/-- **A value is converted to what its mirrored one is decoded to.** -/
theorem converts_of_mirrors {f : Field} {v : Json} {w : Node} {x : f.Value} (hx : f.Accepts v x)
    (h : v.Mirrors w) : f.Converts w [] x := by
  cases f with
  | connectionTimeout =>
    obtain ⟨t, n, rfl, ht, hn, rfl⟩ := hx
    cases h
    exact Convert.reader.millis_eq_ok.2 ⟨t, n, rfl, ht, hn, rfl⟩
  | socketTimeout =>
    obtain ⟨t, n, rfl, ht, hn, rfl⟩ := hx
    cases h
    exact Convert.reader.millis_eq_ok.2 ⟨t, n, rfl, ht, hn, rfl⟩
  | port =>
    obtain ⟨t, n, rfl, ht, hn, rfl⟩ := hx
    cases h
    exact Convert.reader.port_eq_ok.2 ⟨t, n, rfl, ht, hn, rfl⟩
  | core =>
    obtain rfl := hx
    cases h
    rfl
  | host =>
    obtain rfl := hx
    cases h
    rfl
  | softCommit =>
    obtain rfl := hx
    cases h
    rfl
  | protocol =>
    rcases hx with rfl | rfl
    · cases h
      cases x <;> rfl
    · -- a table with the name as its only entry
      cases h with
      | object h =>
        cases h with
        | @cons _ _ w _ _ h hs =>
          cases hs
          have hnames : Node.runNames [.table [(x.name, w)]] = [x.name] := rfl
          refine converts_table.2 fun n hn => ?_
          rw [hnames, List.mem_singleton] at hn
          rw [hn]
          cases x <;> decide +kernel

/-- What a field amounts to depends on its value, not on where that is. -/
theorem amounts_of_mirrors {f : Field} {o : Option Json} {o' : Option Node} {x : f.Value}
    (hx : f.Holds f.Accepts o x) (h : Option.Rel Json.Mirrors o o') : f.Amounts o'.toList x := by
  cases h with
  | none => exact hx
  | some h => exact converts_of_mirrors hx h

end Field

/-! ### Members spread over layers -/

/-- A base layer and variables that hold the members of an object between them.  The
fields in `moved`, all of them strings, are given by the variables, and no other
variable holds a setting; all other members are in the base layer. -/
structure Spread (ms : Members) (moved : List (Field × String)) (base : Entries) (vs : Variables) :
    Prop where
  /-- No field is moved twice. -/
  moved_nodup : (moved.map Prod.fst).Nodup
  /-- The members that are moved are strings. -/
  moved_string : ∀ m ∈ moved, ms.get? m.1.name = some (.string m.2)
  /-- The variables that hold settings, in any order. -/
  moved_perm : (vs.settingVariables).Perm (moved.map fun m => (m.1.variableName, m.2))
  /-- No name is twice in the base layer. -/
  base_nodup : base.names.Nodup
  /-- The base layer holds the members that are not moved, and nothing else. -/
  base_mirrors : ∀ name, Option.Rel Json.Mirrors
    (if name ∈ moved.map (fun m => m.1.name) then none else ms.get? name) (base.get? name)

namespace Spread

variable {ms : Members} {moved : List (Field × String)} {base : Entries} {vs : Variables}

theorem exists_moved (h : Spread ms moved base vs) {v : String × String}
    (hv : v ∈ vs.settingVariables) : ∃ m ∈ moved, v = (m.1.variableName, m.2) := by
  obtain ⟨m, hm, rfl⟩ := List.mem_map.1 (h.moved_perm.mem_iff.1 hv)
  exact ⟨m, hm, rfl⟩

/-- The variables that hold settings are plain, for what follows the lead in their names
is the name of a field. -/
theorem plain_settingVariables (h : Spread ms moved base vs) : vs.settingVariables.Plain := by
  have hrest : ∀ v ∈ vs.settingVariables, ∀ cs,
      (lowercase v.1).toList = Variables.settingsLead ++ cs → ∃ f : Field, cs = f.name.toList := by
    intro v hv cs hcs
    obtain ⟨m, -, rfl⟩ := h.exists_moved hv
    rw [Field.toList_lowercase_variableName] at hcs
    exact ⟨m.1, (List.append_cancel_left hcs).symm⟩
  have hinjective : Function.Injective fun f : Field => lowercase f.variableName := by
    intro f g hfg
    have hlower := congrArg String.toList hfg
    simp only [Field.toList_lowercase_variableName, List.append_cancel_left_eq,
      String.toList_inj] at hlower
    exact Field.name_inj.1 hlower
  have hnodup : (vs.settingVariables.map fun v => lowercase v.1).Nodup := by
    rw [(h.moved_perm.map _).nodup_iff, List.map_map]
    have hnames := h.moved_nodup.map hinjective
    rw [List.map_map] at hnames
    exact hnames
  refine ⟨hnodup, ?_, ?_, ?_⟩
  · intro v hv cs hcs
    obtain ⟨f, rfl⟩ := hrest v hv cs hcs
    exact f.plain_name.1
  · intro v hv cs hcs
    obtain ⟨f, rfl⟩ := hrest v hv cs hcs
    exact f.plain_name.2.1
  · intro v hv cs hcs
    obtain ⟨f, rfl⟩ := hrest v hv cs hcs
    exact f.plain_name.2.2

/-- A field is held by a variable exactly if it is moved. -/
theorem setting?_settingVariables (h : Spread ms moved base vs) {f : Field} {text : String} :
    vs.settingVariables.setting? f.name = some text ↔ (f, text) ∈ moved := by
  rw [Variables.setting?_eq_some h.plain_settingVariables]
  constructor
  · rintro ⟨k, hk, hlower⟩
    obtain ⟨m, hm, heq⟩ := h.exists_moved hk
    obtain ⟨rfl, rfl⟩ := Prod.mk.inj heq
    rw [Field.toList_lowercase_variableName, List.append_cancel_left_eq, String.toList_inj,
      Field.name_inj] at hlower
    rw [← hlower]
    exact hm
  · intro hm
    refine ⟨f.variableName, ?_, f.toList_lowercase_variableName⟩
    exact h.moved_perm.mem_iff.2 (List.mem_map.2 ⟨(f, text), hm, rfl⟩)

variable {s : Settings}

/-- The names in the base layer are those of fields. -/
theorem exists_field (h : Spread ms moved base vs)
    (hkeys : ∀ k ∈ ms.keys, k ∈ Field.all.map Field.name) {e : String × Node} (he : e ∈ base) :
    ∃ (f : Field) (v : Json), e.1 = f.name ∧ ms.get? f.name = some v ∧ v.Mirrors e.2 := by
  have hrel := h.base_mirrors e.1
  rw [Entries.get?_of_mem h.base_nodup he] at hrel
  split_ifs at hrel with hmoved
  · cases hrel
  · cases hget : ms.get? e.1 with
    | none =>
      rw [hget] at hrel
      cases hrel
    | some v =>
      rw [hget] at hrel
      have hkey : e.1 ∈ ms.keys := Members.mem_keys_of_isSome (by rw [hget]; rfl)
      obtain ⟨f, -, hf⟩ := List.mem_map.1 (hkeys e.1 hkey)
      rw [← hf] at hget
      exact ⟨f, v, hf.symm, hget, Option.rel_some_some.1 hrel⟩

theorem lowercase_of_mem_names (h : Spread ms moved base vs)
    (hkeys : ∀ k ∈ ms.keys, k ∈ Field.all.map Field.name) {n : String} (hn : n ∈ base.names) :
    lowercase n = n := by
  obtain ⟨e, he, rfl⟩ := List.mem_map.1 hn
  obtain ⟨f, -, hf, -⟩ := h.exists_field hkeys he
  rw [hf, f.lowercase_name]

/-- The base layer is plain if the object holds settings. -/
theorem plain_base (h : Spread ms moved base vs)
    (hkeys : ∀ k ∈ ms.keys, k ∈ Field.all.map Field.name)
    (haccepts : ∀ f : Field, f.Holds f.Accepts (ms.get? f.name) (f.get s)) : base.Plain where
  stop := fun e he => by
    obtain ⟨f, -, hf, -⟩ := h.exists_field hkeys he
    rw [hf]
    exact f.plain_name.2.1
  bracket := fun e he => by
    obtain ⟨f, -, hf, -⟩ := h.exists_field hkeys he
    rw [hf]
    exact f.plain_name.2.2
  nodup := by
    have hlower : (base.map fun e => lowercase e.1) = base.names :=
      List.map_congr_left fun e he => h.lowercase_of_mem_names hkeys (List.mem_map_of_mem he)
    rw [hlower]
    exact h.base_nodup
  filled := fun e he => by
    obtain ⟨f, v, -, hget, hv⟩ := h.exists_field hkeys he
    have hx := haccepts f
    rw [hget] at hx
    exact Field.ne_empty_of_mirrors hx hv

/-- **Every field is given by what mirrors its member**, be it in a variable or in the
base layer. -/
theorem given_eq (h : Spread ms moved base vs)
    (hkeys : ∀ k ∈ ms.keys, k ∈ Field.all.map Field.name) (f : Field) :
    ∃ o : Option Node, f.given base [] vs.settingVariables = o.toList ∧
      Option.Rel Json.Mirrors (ms.get? f.name) o := by
  have hbase := h.base_mirrors f.name
  have hdefined := Entries.defined?_eq_get? (fun n hn => h.lowercase_of_mem_names hkeys hn) f.name
  unfold Field.given
  rw [hdefined]
  cases htext : vs.settingVariables.setting? f.name with
  | some text =>
    have hmem := h.setting?_settingVariables.1 htext
    have hmoved : f.name ∈ moved.map fun m => m.1.name := List.mem_map_of_mem hmem
    rw [if_pos hmoved] at hbase
    refine ⟨some (.text text), ?_, ?_⟩
    · -- the base layer holds nothing under the name
      generalize base.get? f.name = o at hbase
      cases hbase
      rfl
    · rw [h.moved_string (f, text) hmem]
      exact .some (.string text)
  | none =>
    have hmoved : f.name ∉ moved.map fun m => m.1.name := by
      intro hmem
      obtain ⟨⟨g, text⟩, hm, hg⟩ := List.mem_map.1 hmem
      obtain rfl := Field.name_inj.1 hg
      rw [h.setting?_settingVariables.2 hm] at htext
      cases htext
    rw [if_neg hmoved] at hbase
    exact ⟨base.get? f.name, rfl, hbase⟩

/-- **Settings are read from layers as from the object.**  An object whose keys are names
of fields and that holds settings may be given in a base layer, and any of its strings in
variables, or none: the same settings are read, for every environment without a file. -/
theorem readFrom_eq_ok (hkeys : ∀ k ∈ ms.keys, k ∈ Field.all.map Field.name)
    (hms : ofMembers ms = .ok s) (h : Spread ms moved base vs) {files : Files} {text : String}
    (hbase : files.get? baseFile = some text) (hentries : Yaml.entries? text = some base)
    {e : Environment} (hown : files.get? (environmentFile e) = none) :
    readFrom files e vs = .ok s := by
  have haccepts : ∀ f : Field, f.Holds f.Accepts (ms.get? f.name) (f.get s) := by
    rw [ofMembers_eq_assemble, assemble_readIf_eq_ok] at hms
    exact fun f => Field.holds_decode.1 (hms f)
  have hlayered : Layered files e vs.settingVariables base [] :=
    { base_file := ⟨text, hbase, hentries⟩
      own_file := by rw [hown]
      base_plain := h.plain_base hkeys haccepts
      own_plain := ⟨by simp, by simp, by simp, by simp⟩
      variables_plain := h.plain_settingVariables }
  -- of the variables, those that hold settings are all that is read
  have hvariables : readFrom files e vs = readFrom files e vs.settingVariables := by
    unfold readFrom
    rw [Variables.settings_settingVariables]
  rw [hvariables, hlayered.readFrom_eq_assemble, assemble_readIf_eq_ok]
  intro f
  rw [Field.holds_stack fun v hv => hlayered.ne_empty_of_mem_given hv]
  obtain ⟨o, ho, hrel⟩ := h.given_eq hkeys f
  rw [ho]
  exact Field.amounts_of_mirrors (haccepts f) hrel

/-! ### An object in two layers -/

/-- An object with settings, its protocol given with a key. -/
def keyedProtocol : Members :=
  [("connection_timeout_ms", .string "+250"), ("core", .string "c"), ("host", .string "h"),
    ("port", .string "8983"), ("protocol", .object [("https", .null)]),
    ("soft_commit", .bool false)]

/-- Some of its strings, which are moved to variables. -/
def movedStrings : List (Field × String) :=
  [(.host, "h"), (.connectionTimeout, "+250"), (.port, "8983")]

/-- What is left of it. -/
def leftEntries : Entries :=
  [("core", .text "c"), ("soft_commit", .bool false), ("protocol", .table [("https", .null)])]

/-- A file with what is left. -/
def leftFiles : Files :=
  [("base.yaml", "core: c\nsoft_commit: false\nprotocol: \x7bhttps: null\x7d\n")]

/-- The variables of a process, some of which hold settings. -/
def processVariables : Variables :=
  [("SOLR_HOST", "h"), ("HOME", "/root"), ("SOLR_CONNECTION_TIMEOUT_MS", "+250"),
    ("SOLR_PORT", "8983")]

theorem spread_keyedProtocol : Spread keyedProtocol movedStrings leftEntries processVariables where
  moved_nodup := by decide
  moved_string := by
    intro m hm
    simp only [movedStrings, List.mem_cons, List.not_mem_nil, or_false] at hm
    rcases hm with rfl | rfl | rfl <;> rfl
  moved_perm := by
    have hmoved : processVariables.settingVariables =
        movedStrings.map fun m => (m.1.variableName, m.2) := by decide +kernel
    rw [hmoved]
  base_nodup := by decide
  base_mirrors := by
    intro name
    by_cases hmoved : name ∈ movedStrings.map fun m => m.1.name
    · have hleft : leftEntries.get? name = none := by
        simp only [movedStrings, Field.name, List.map_cons, List.map_nil, List.mem_cons,
          List.not_mem_nil, or_false] at hmoved
        rcases hmoved with rfl | rfl | rfl <;> simp [leftEntries, Entries.get?]
      rw [if_pos hmoved, hleft]
      exact .none
    · rw [if_neg hmoved]
      obtain ⟨hhost, htimeout, hport⟩ :
          "host" ≠ name ∧ "connection_timeout_ms" ≠ name ∧ "port" ≠ name := by
        simpa [movedStrings, Field.name, eq_comm] using hmoved
      simp only [keyedProtocol, leftEntries, Members.get?, Entries.get?, if_neg hhost,
        if_neg htimeout, if_neg hport]
      split_ifs with hcore hprotocol hsoft
      · exact .some (.string "c")
      · exact absurd (hprotocol.trans hsoft.symm) (by decide)
      · exact .some (.object (.cons "https" .null .nil))
      · exact .some (.bool false)
      · exact .none

theorem readFrom_keyedProtocol :
    ofMembers keyedProtocol =
        .ok { protocol := .https, host := "h", port := 8983, core := "c", connectionTimeout := 250,
              socketTimeout := 30000, softCommit := false } ∧
      readFrom leftFiles .production processVariables =
        .ok { protocol := .https, host := "h", port := 8983, core := "c", connectionTimeout := 250,
              socketTimeout := 30000, softCommit := false } := by
  have hms : ofMembers keyedProtocol =
      .ok { protocol := .https, host := "h", port := 8983, core := "c", connectionTimeout := 250,
            socketTimeout := 30000, softCommit := false } := by rfl
  have hown : leftFiles.get? (environmentFile .production) = none := by decide +kernel
  exact ⟨hms, readFrom_eq_ok (by decide +kernel) hms spread_keyedProtocol rfl rfl hown⟩

end Spread

end Settings

end SearchClient
