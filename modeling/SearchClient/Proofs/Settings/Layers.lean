import SearchClient.Proofs.Config.Variables
import SearchClient.Proofs.Settings.Fields
import SearchClient.Settings.Read

/-!
# Settings in layers

Settings come from a base file, from the file of an environment and from variables.
In each of the three a field may be defined, defined badly, or not defined at all.
What a field is depends on the highest value that is defined for it, and lower values
may be anything.

The protocol is the exception.  It may be given by a table with its name, and tables
in successive layers are joined, so they have to agree.

## Main definitions

* `Field.Converts`, `Field.Amounts` — what a field is converted to from its highest
  value, and what it amounts to if it may have none.
* `Layered` — the layers that are read.
* `Field.given` — the values of a field in the layers.

## Main results

* `readFrom_iff` — **when settings are read, which ones, and what they depend on.**
* `readFrom_disagreeing` — layers whose tables do not agree.
-/

namespace SearchClient

open Text (lowercase)

/-- A number is read from its text. -/
theorem Convert.port_int {key text : String} {n : Int} (h : Decimal.text n = text) :
    Convert.reader.port key (.int n) = Convert.reader.port key (.text text) := by
  rw [← h]
  rfl

/-- A table gives the protocol that all its names name. -/
theorem Convert.protocol_table {es : Entries} (hne : es ≠ []) (hnodup : es.names.Nodup)
    (hlower : ∀ n ∈ es.names, lowerAscii n = n) {p : Protocol} :
    Convert.protocol (.table es) = .ok p ↔ ∀ n ∈ es.names, Protocol.ofText? n = some p := by
  obtain ⟨⟨n, v⟩, es, rfl⟩ := List.exists_cons_of_ne_nil hne
  cases es with
  | nil =>
    unfold Convert.protocol
    cases hn : Protocol.ofText? n <;> simp [Entries.names, Protocol.ofTag?_lowerAscii, hn]
  | cons e es =>
    obtain ⟨m, w⟩ := e
    refine iff_of_false (by rintro ⟨⟩) fun h => ?_
    -- two names of one protocol are equal in lower case
    have hname : ∀ k ∈ Entries.names ((n, v) :: (m, w) :: es), k = p.name := fun k hk => by
      rw [← Protocol.ofText?_eq_some.1 (h k hk), hlower k hk]
    have hn := hname n List.mem_cons_self
    have hm := hname m (List.mem_cons_of_mem n List.mem_cons_self)
    refine (List.nodup_cons.1 hnodup).1 ?_
    rw [hn, ← hm]
    exact List.mem_cons_self

namespace Settings

/-! ### Fields -/

namespace Field

/-- `x` is what a field is converted to from its highest value, with the values of lower
layers below.  If the protocol is given by a table, all names in the tables at the top
name the same one. -/
def Converts (f : Field) (v : Node) (below : List Node) (x : f.Value) : Prop :=
  match f, x with
  | .protocol, p =>
    if v.isTable then ∀ n ∈ Node.runNames (v :: below), Protocol.ofText? (lowercase n) = some p
    else Convert.protocol v = .ok p
  | f, x => f.convert v = .ok x

/-- `x` is what a field amounts to, given its values in all layers, the highest one
first. -/
def Amounts (f : Field) : List Node → f.Value → Prop
  | [], x => f.default? = some x
  | v :: below, x => f.Converts v below x

theorem converts_of_ne {f : Field} (h : f ≠ .protocol) {v : Node} {below : List Node}
    {x : f.Value} : f.Converts v below x ↔ f.convert v = .ok x := by
  cases f with
  | protocol => exact absurd rfl h
  | _ => rfl

theorem converts_of_not_table {f : Field} {v : Node} (h : v.isTable = false) {below : List Node}
    {x : f.Value} : f.Converts v below x ↔ f.convert v = .ok x := by
  cases f with
  | protocol =>
    rw [Converts, h, if_neg Bool.false_ne_true]
    exact Iff.rfl
  | _ => rfl

theorem converts_table {es : Entries} {below : List Node} {p : Protocol} :
    Converts .protocol (.table es) below p ↔
      ∀ n ∈ Node.runNames (.table es :: below), Protocol.ofText? (lowercase n) = some p :=
  Iff.rfl

/-- Only the protocol is converted from a table. -/
theorem convert_table {f : Field} (h : f ≠ .protocol) (es : Entries) (x : f.Value) :
    f.convert (.table es) ≠ .ok x := by
  cases f with
  | protocol => exact absurd rfl h
  | _ => rintro ⟨⟩

/-- Nothing is converted from a list. -/
theorem convert_list {f : Field} (vs : List Node) (x : f.Value) : f.convert (.list vs) ≠ .ok x := by
  cases f with
  | _ => rintro ⟨⟩

/-- The names in a value do not matter unless it is a table. -/
theorem convert_lowerNames {f : Field} {v : Node} (h : v.isTable = false) {x : f.Value} :
    f.convert v.lowerNames = .ok x ↔ f.convert v = .ok x := by
  cases v with
  | table es => cases h
  | list vs => exact iff_of_false (convert_list _ x) (convert_list _ x)
  | _ => simp [Node.lowerNames]

/-- **What values put over each other are converted to.** -/
theorem exists_stack {f : Field} {v : Node} (h : v ≠ .table []) (below : List Node) :
    ∃ w, Node.stack (v :: below) = some w ∧ ∀ x, f.convert w = .ok x ↔ f.Converts v below x := by
  cases hv : v.isTable with
  | false =>
    exact ⟨_, Node.stack_of_not_table hv below, fun x =>
      (convert_lowerNames hv).trans (converts_of_not_table hv).symm⟩
  | true =>
    obtain ⟨es, rfl⟩ : ∃ es, v = .table es := by cases v <;> simp_all [Node.isTable]
    obtain ⟨es', hstack, hne, hnodup, hnames⟩ :=
      Node.exists_stack_eq_table (fun hes : es = [] => h (congrArg Node.table hes)) below
    refine ⟨_, hstack, fun x => ?_⟩
    by_cases hf : f = .protocol
    · subst hf
      have hlower : ∀ n ∈ Entries.names es', lowerAscii n = n := by
        intro n hn
        obtain ⟨m, -, rfl⟩ := (hnames n).1 hn
        exact Text.lowerAscii_of_settled fun c hc => Text.settled_of_mem_lowercase hc
      refine (Convert.protocol_table hne hnodup hlower).trans (Iff.trans ?_ converts_table.symm)
      constructor
      · intro hall m hm
        exact hall _ ((hnames _).2 ⟨m, hm, rfl⟩)
      · intro hall n hn
        obtain ⟨m, hm, rfl⟩ := (hnames n).1 hn
        exact hall m hm
    · exact iff_of_false (convert_table hf es' x) fun hx =>
        convert_table hf es x ((converts_of_ne hf).1 hx)

theorem holds_stack {f : Field} {vs : List Node} (h : ∀ v ∈ vs, v ≠ .table []) {x : f.Value} :
    f.Holds (fun v x => f.convert v = .ok x) (Node.stack vs) x ↔ f.Amounts vs x := by
  cases vs with
  | nil => rfl
  | cons v below =>
    obtain ⟨w, hstack, hw⟩ := exists_stack (f := f) (h v List.mem_cons_self) below
    rw [hstack]
    exact hw x

theorem forall_stack {f : Field} {vs : List Node} (h : ∀ v ∈ vs, v ≠ .table []) :
    (∀ w, Node.stack vs = some w → ∃ x, f.convert w = .ok x) ↔
      ∀ v below, vs = v :: below → ∃ x, f.Converts v below x := by
  cases vs with
  | nil => simp [Node.stack]
  | cons v below =>
    obtain ⟨w, hstack, hw⟩ := exists_stack (f := f) (h v List.mem_cons_self) below
    rw [hstack]
    constructor
    · rintro hread v' below' heq
      obtain ⟨rfl, rfl⟩ := List.cons.inj heq
      obtain ⟨x, hx⟩ := hread w rfl
      exact ⟨x, (hw x).1 hx⟩
    · rintro hconv w' heq
      cases heq
      obtain ⟨x, hx⟩ := hconv v below rfl
      exact ⟨x, (hw x).2 hx⟩

end Field

/-! ### Entries -/

/-- Settings are put together from the entries under the names of the fields. -/
theorem ofEntries_eq_assemble (es : Entries) :
    ofEntries es = assemble .missing fun f => readIf f.convert (es.get? f.name) := rfl

/-! ### Layers -/

/-- What the base file and the file of an environment hold; if there is no such file,
it holds nothing.  All names are plain. -/
structure Layered (files : Files) (e : Environment) (vs : Variables) (base own : Entries) :
    Prop where
  /-- What the base file holds. -/
  base_file : ∃ text, files.get? baseFile = some text ∧ Yaml.entries? text = some base
  /-- What the file of the environment holds. -/
  own_file : match files.get? (environmentFile e) with
    | some text => Yaml.entries? text = some own
    | none => own = []
  /-- The names in the base file are plain. -/
  base_plain : base.Plain
  /-- The names in the file of the environment are plain. -/
  own_plain : own.Plain
  /-- The names of the variables are plain. -/
  variables_plain : vs.Plain

/-- The values of a field: that of the variables first, then that of the file of the
environment, then that of the base file. -/
def Field.given (base own : Entries) (vs : Variables) (f : Field) : List Node :=
  ((vs.setting? f.name).map Node.text).toList ++ (own.defined? f.name).toList ++
    (base.defined? f.name).toList

section

variable {files : Files} {e : Environment} {vs : Variables} {base own : Entries}

theorem Layered.plain (h : Layered files e vs base own) :
    ∀ l ∈ [base, own, vs.settings], Entries.Plain l := by
  intro l hl
  simp only [List.mem_cons, List.not_mem_nil, or_false] at hl
  rcases hl with rfl | rfl | rfl
  · exact h.base_plain
  · exact h.own_plain
  · exact Variables.plain_settings h.variables_plain

/-- The layers are read. -/
theorem Layered.readFrom_eq (h : Layered files e vs base own) :
    readFrom files e vs = ofEntries (Entries.ofLayers [base, own, vs.settings]) := by
  obtain ⟨text, hbase, hread⟩ := h.base_file
  have hown := h.own_file
  cases hfile : files.get? (environmentFile e) with
  | none =>
    rw [hfile] at hown
    simp only [readFrom, Files.layer, hbase, hread, hfile, hown]
    rfl
  | some text' =>
    rw [hfile] at hown
    simp only [readFrom, Files.layer, hbase, hread, hfile, hown]
    rfl

/-- A field is read from the values given for it. -/
theorem Layered.get?_eq (h : Layered files e vs base own) (f : Field) :
    (Entries.ofLayers [base, own, vs.settings]).get? f.name = Node.stack (f.given base own vs) := by
  have hlayers : [base, own, vs.settings].reverse.filterMap (Entries.defined? f.name) =
      f.given base own vs := by
    rw [Field.given, ← Variables.defined?_settings h.variables_plain]
    simp only [List.reverse_cons, List.reverse_nil, List.nil_append, List.cons_append,
      List.filterMap_cons, List.filterMap_nil]
    cases Entries.defined? f.name vs.settings <;> cases Entries.defined? f.name own <;>
      cases Entries.defined? f.name base <;> rfl
  rw [Entries.get?_ofLayers h.plain, hlayers]

/-- Settings are put together from the values that are given for each field. -/
theorem Layered.readFrom_eq_assemble (h : Layered files e vs base own) :
    readFrom files e vs =
      assemble .missing fun f => readIf f.convert (Node.stack (f.given base own vs)) := by
  rw [h.readFrom_eq, ofEntries_eq_assemble]
  simp only [h.get?_eq]

theorem Layered.ne_empty_of_mem_given (h : Layered files e vs base own) {f : Field} {v : Node}
    (hv : v ∈ f.given base own vs) : v ≠ .table [] := by
  simp only [Field.given, List.mem_append, Option.mem_toList] at hv
  rcases hv with (hv | hv) | hv
  · obtain ⟨t, -, rfl⟩ := Option.map_eq_some_iff.1 hv
    exact Node.noConfusion
  · exact Entries.ne_empty_of_defined? h.own_plain hv
  · exact Entries.ne_empty_of_defined? h.base_plain hv

/-- **When settings are read**: the required fields are given, and every field that is
given is converted from its highest value.  **Which ones**: what the fields amount
to.  **What they depend on**: the values of the fields and nothing else, also when there
is an error.  Which error that is if several fields cannot be converted is a choice: a table
has no order of its own, and `ofEntries` goes by the names of the fields. -/
theorem readFrom_iff (h : Layered files e vs base own) :
    ((∃ s, readFrom files e vs = .ok s) ↔
      (∀ f ∈ Field.required, f.given base own vs ≠ []) ∧
        ∀ f v below, Field.given base own vs f = v :: below → ∃ x, f.Converts v below x) ∧
    (∀ s, readFrom files e vs = .ok s ↔
      ∀ f : Field, f.Amounts (f.given base own vs) (f.get s)) ∧
    ∀ files' e' vs' base' own', Layered files' e' vs' base' own' →
      (∀ f : Field, f.given base' own' vs' = f.given base own vs) →
        readFrom files' e' vs' = readFrom files e vs := by
  refine ⟨?_, fun s => ?_, fun files' e' vs' base' own' h' hgiven => ?_⟩
  · rw [h.readFrom_eq_assemble, exists_assemble_readIf_eq_ok]
    refine and_congr (forall₂_congr fun f _ => ?_) (forall_congr' fun f => ?_)
    · cases f.given base own vs <;> simp [Node.stack]
    · exact Field.forall_stack fun v hv => h.ne_empty_of_mem_given hv
  · rw [h.readFrom_eq_assemble, assemble_readIf_eq_ok]
    exact forall_congr' fun f => Field.holds_stack fun v hv => h.ne_empty_of_mem_given hv
  · rw [h'.readFrom_eq_assemble, h.readFrom_eq_assemble]
    simp only [hgiven]

end

/-! ### Layers that override and layers that disagree -/

/-- Files in which the file of the environment puts a port over a bad one. -/
def overridingFiles : Files :=
  [("base.yaml", "host: h\nport: x\ncore: c\n"), ("local.yaml", "Port: 8983\n")]

/-- What the base file holds. -/
def overriddenBase : Entries := [("host", .text "h"), ("port", .text "x"), ("core", .text "c")]

/-- What the file of the environment holds. -/
def overridingOwn : Entries := [("Port", .int 8983)]

/-- A variable that is put over both files. -/
def overridingVariables : Variables := [("SOLR_HOST", "s")]

theorem plain_overridingVariables : overridingVariables.Plain := by
  have hrest : ∀ v ∈ overridingVariables, ∀ cs,
      (lowercase v.1).toList = Variables.settingsLead ++ cs → cs = "host".toList := by
    intro v hv cs hcs
    obtain rfl := List.mem_singleton.1 hv
    have hname : (lowercase "SOLR_HOST").toList = Variables.settingsLead ++ "host".toList := by
      decide +kernel
    rw [hname] at hcs
    exact (List.append_cancel_left hcs).symm
  refine ⟨by decide +kernel, fun v hv cs hcs => ?_, fun v hv cs hcs => ?_, fun v hv cs hcs => ?_⟩
  · rw [hrest v hv cs hcs]
    decide
  · rw [hrest v hv cs hcs]
    decide
  · rw [hrest v hv cs hcs]
    decide

theorem layered_overriding :
    Layered overridingFiles .localMachine overridingVariables overriddenBase overridingOwn where
  base_file := ⟨_, rfl, rfl⟩
  own_file := by
    show Yaml.entries? "Port: 8983\n" = some overridingOwn
    rfl
  base_plain := ⟨by decide +kernel, by decide +kernel, by decide +kernel, by simp [overriddenBase]⟩
  own_plain := ⟨by decide +kernel, by decide +kernel, by decide +kernel, by simp [overridingOwn]⟩
  variables_plain := plain_overridingVariables

/-- The bad port does not matter, and the variable gives the host. -/
theorem readFrom_overriding :
    Layered overridingFiles .localMachine overridingVariables overriddenBase overridingOwn ∧
      readFrom overridingFiles .localMachine overridingVariables =
        .ok { protocol := .http, host := "s", port := 8983, core := "c",
              connectionTimeout := 1000, socketTimeout := 30000, softCommit := true } := by
  refine ⟨layered_overriding, ((readFrom_iff layered_overriding).2.1 _).2 fun f => ?_⟩
  cases f with
  | connectionTimeout => rfl
  | core => rfl
  | host => rfl
  | port =>
    have htext : Decimal.text 8983 = "8983" := by decide +kernel
    exact (Convert.port_int htext).trans rfl
  | protocol => rfl
  | socketTimeout => rfl
  | softCommit => rfl

/-- Files in which a field has tables with different names. -/
def disagreeingFiles : Files :=
  [("base.yaml", "host: h\nport: 1\ncore: c\nprotocol: \x7bhttp: 1\x7d\n"),
    ("local.yaml", "protocol: \x7bhttps: 1\x7d\n")]

/-- What the base file holds. -/
def disagreeingBase : Entries :=
  [("host", .text "h"), ("port", .int 1), ("core", .text "c"),
    ("protocol", .table [("http", .int 1)])]

/-- What the file of the environment holds. -/
def disagreeingOwn : Entries := [("protocol", .table [("https", .int 1)])]

theorem layered_disagreeing :
    Layered disagreeingFiles .localMachine [] disagreeingBase disagreeingOwn where
  base_file := ⟨_, rfl, rfl⟩
  own_file := by
    show Yaml.entries? "protocol: \x7bhttps: 1\x7d\n" = some disagreeingOwn
    rfl
  base_plain := ⟨by decide +kernel, by decide +kernel, by decide +kernel, by simp [disagreeingBase]⟩
  own_plain := ⟨by decide +kernel, by decide +kernel, by decide +kernel, by simp [disagreeingOwn]⟩
  variables_plain := ⟨List.nodup_nil, by simp, by simp, by simp⟩

/-- No settings are read from them, although the highest value of every field can be
converted by itself. -/
theorem readFrom_disagreeing :
    Layered disagreeingFiles .localMachine [] disagreeingBase disagreeingOwn ∧
      (∀ f ∈ Field.required, f.given disagreeingBase disagreeingOwn [] ≠ []) ∧
      (∀ f v below, Field.given disagreeingBase disagreeingOwn [] f = v :: below →
        ∃ x, f.convert v = .ok x) ∧
      ∀ s, readFrom disagreeingFiles .localMachine [] ≠ .ok s := by
  refine ⟨layered_disagreeing, ?_, ?_, ?_⟩
  · intro f hf
    cases f with
    | core => rintro ⟨⟩
    | host => rintro ⟨⟩
    | port => rintro ⟨⟩
    | _ => simp [Field.required] at hf
  · intro f v below hv
    cases f with
    | core =>
      cases hv
      exact ⟨"c", rfl⟩
    | host =>
      cases hv
      exact ⟨"h", rfl⟩
    | port =>
      cases hv
      have htext : Decimal.text 1 = "1" := by decide +kernel
      exact ⟨(1 : UInt16), (Convert.port_int htext).trans rfl⟩
    | protocol =>
      cases hv
      exact ⟨Protocol.https, rfl⟩
    | _ => cases hv
  · intro s hs
    have hstack : Node.stack (Field.given disagreeingBase disagreeingOwn [] .protocol) =
        some (.table [("http", .int 1), ("https", .int 1)]) := rfl
    rw [layered_disagreeing.readFrom_eq_assemble, assemble_readIf_eq_ok] at hs
    have hprotocol := hs .protocol
    rw [hstack] at hprotocol
    cases hprotocol

end Settings

end SearchClient
