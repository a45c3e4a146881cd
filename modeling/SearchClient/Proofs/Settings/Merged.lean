import SearchClient.Proofs.EnvFile.Loading
import SearchClient.Proofs.Settings.Layers
import SearchClient.Url.Variable

/-!
# One merged environment

Settings and the URL of a server are both looked up after a file of variables has been
loaded.  Neither sees more of the file than the variables that it leaves: the merged
variables name the environment, are the highest layer of the settings, and hold the URL.

An environment that does not exist is reported before any file of settings is looked
at, and nothing else is reported in that way.

## Main definitions

* `Selects` — the environment that some variables name.

## Main results

* `readFrom_ne_badEnvironment` — reading for a given environment never finds fault with
  its name.
* `read_eq_and_fromVariables_eq` — **settings and URLs are read from the merged
  variables.**
-/

namespace SearchClient

/-! ### Environments -/

theorem Environment.name_inj {e e' : Environment} : e.name = e'.name ↔ e = e' := by
  cases e <;> cases e' <;> decide

theorem Environment.ofText?_eq_some {text : String} {e : Environment} :
    Environment.ofText? text = some e ↔ lowerAscii text = e.name :=
  find?_name_eq_some_iff (fun e => by cases e <;> decide) fun _ _ => Environment.name_inj.1

namespace Settings

/-- The environment that some variables name, in capital or small letters: the own
machine if they name none. -/
def Selects (vs : Variables) (e : Environment) : Prop :=
  match vs.get? "APP_ENVIRONMENT" with
  | none => e = .localMachine
  | some text => lowerAscii text = e.name

/-- An environment is found if it is named, and otherwise its name is at fault. -/
theorem environmentOf_eq (vs : Variables) :
    (∀ e, environmentOf vs = .ok e ↔ Selects vs e) ∧
      ((∀ e, ¬ Selects vs e) → environmentOf vs = .error .badEnvironment) := by
  unfold environmentOf environmentVariable Selects
  cases hget : vs.get? "APP_ENVIRONMENT" with
  | none =>
    refine ⟨fun e => ?_, fun h => absurd rfl (h .localMachine)⟩
    simp [eq_comm]
  | some text =>
    simp only
    cases htext : Environment.ofText? text with
    | none =>
      have hnot : ∀ e : Environment, ¬ lowerAscii text = e.name := by
        intro e he
        rw [Environment.ofText?_eq_some.2 he] at htext
        cases htext
      exact ⟨fun e => iff_of_false (by simp) (hnot e), fun _ => rfl⟩
    | some e =>
      have he := Environment.ofText?_eq_some.1 htext
      refine ⟨fun e' => ?_, fun h => absurd he (h e)⟩
      rw [← Environment.ofText?_eq_some, htext]
      simp

/-! ### Errors of the layers -/

theorem convertString_ne (key : String) (v : Node) :
    Convert.string key v ≠ .error .badEnvironment := by
  cases v with
  | _ => rintro ⟨⟩

theorem bind_ne_error {ε α β : Type} {x : Except ε α} {k : α → Except ε β} {e : ε}
    (hx : x ≠ .error e) (hk : ∀ a, k a ≠ .error e) : x.bind k ≠ .error e := by
  cases x with
  | error e' => exact fun h => hx (congrArg Except.error (Except.error.inj h))
  | ok a => exact hk a

theorem map_ne_error {ε α β : Type} {x : Except ε α} {e : ε} (hx : x ≠ .error e) (f : α → β) :
    x.map f ≠ .error e := by
  cases x with
  | error e' => exact fun h => hx (congrArg Except.error (Except.error.inj h))
  | ok a => rintro ⟨⟩

theorem convertUnsigned_ne (limit : ℕ) (key : String) (v : Node) :
    Convert.reader.unsigned limit key v ≠ .error .badEnvironment := by
  refine bind_ne_error (convertString_ne key v) fun s => ?_
  cases Decimal.readUnsigned limit s.toList with
  | error e => rintro ⟨⟩
  | ok n => rintro ⟨⟩

/-- No conversion of a field finds fault with the environment. -/
theorem Field.convert_ne_badEnvironment (f : Field) (v : Node) :
    f.convert v ≠ .error .badEnvironment := by
  cases f with
  | connectionTimeout => exact map_ne_error (convertUnsigned_ne _ _ v) _
  | core => exact convertString_ne _ v
  | host => exact convertString_ne _ v
  | port => exact map_ne_error (convertUnsigned_ne _ _ v) _
  | protocol =>
    show Convert.protocol v ≠ _
    unfold Convert.protocol
    intro h
    split at h
    · dsimp only at h
      split at h <;> cases h
    · dsimp only at h
      split at h <;> cases h
    · cases h
  | socketTimeout => exact map_ne_error (convertUnsigned_ne _ _ v) _
  | softCommit =>
    show Convert.bool _ v ≠ _
    unfold Convert.bool
    intro h
    split at h
    · cases h
    · cases h
    · cases h
    · dsimp only at h
      split at h <;> cases h
    · cases h

theorem layer_ne_badEnvironment (text : String) : Files.layer text ≠ .error .badEnvironment := by
  unfold Files.layer
  split <;> rintro ⟨⟩

/-- **Reading for a given environment never finds fault with its name.** -/
theorem readFrom_ne_badEnvironment (files : Files) (e : Environment) (vs : Variables) :
    readFrom files e vs ≠ .error .badEnvironment := by
  have hentries : ∀ es, ofEntries es ≠ .error .badEnvironment := by
    intro es h
    rw [ofEntries_eq_assemble, assemble_readIf_eq_error] at h
    rcases h with ⟨f, v, -, hf, -⟩ | ⟨-, f, -, hf⟩
    · exact f.convert_ne_badEnvironment v hf
    · cases hf
  unfold readFrom
  cases files.get? baseFile with
  | none => rintro ⟨⟩
  | some text =>
    refine bind_ne_error (layer_ne_badEnvironment text) fun base => ?_
    cases files.get? (environmentFile e) with
    | none => exact hentries _
    | some text' => exact bind_ne_error (layer_ne_badEnvironment text') fun own => hentries _

/-! ### Reading from merged variables -/

/-- **Settings and URLs are read from the merged variables.**  The process counts before
the file, and in the file the first definition of a name.  Settings are those of the
environment that the merged variables name; if they name one that does not exist, that
is the error, and in no other case.  The URL is the text of its variable, as it is. -/
theorem read_eq_and_fromVariables_eq (files : Files) (vs : Variables) (text : String) :
    (∀ name, (EnvFile.merged vs text).get? name =
      (vs.get? name).or ((EnvFile.assignments vs (EnvFile.definitions text)).get? name)) ∧
    (∀ e, Selects (EnvFile.merged vs text) e →
      read files vs text = readFrom files e (EnvFile.merged vs text)) ∧
    (read files vs text = .error .badEnvironment ↔
      ∀ e, ¬ Selects (EnvFile.merged vs text) e) ∧
    ConfigError.badEnvironment.message? =
      some "Failed to parse APP_ENVIRONMENT: Matching variant not found" ∧
    (∀ u, Url.fromVariables vs text = .ok u ↔
      (EnvFile.merged vs text).get? "SOLR_URL" = some u.text) ∧
    (∀ e, Url.fromVariables vs text = .error e ↔
      (EnvFile.merged vs text).get? "SOLR_URL" = none ∧ e = ⟨"SOLR_URL"⟩) := by
  obtain ⟨hfound, hfault⟩ := environmentOf_eq (EnvFile.merged vs text)
  have hread : read files vs text = (environmentOf (EnvFile.merged vs text)).bind fun e =>
      readFrom files e (EnvFile.merged vs text) := by
    rw [← EnvFile.load_eq_merged]
    rfl
  have hselected : ∀ e, Selects (EnvFile.merged vs text) e →
      read files vs text = readFrom files e (EnvFile.merged vs text) := by
    intro e he
    rw [hread, (hfound e).2 he]
    rfl
  refine ⟨EnvFile.get?_merged vs text, hselected, ⟨?_, ?_⟩, rfl, ?_, ?_⟩
  · intro herror e he
    rw [hselected e he] at herror
    exact readFrom_ne_badEnvironment files e _ herror
  · intro hnone
    rw [hread, hfault hnone]
    rfl
  · intro u
    unfold Url.fromVariables Url.urlVariable
    rw [EnvFile.load_eq_merged]
    cases (EnvFile.merged vs text).get? "SOLR_URL" with
    | none => simp
    | some held =>
      obtain ⟨t⟩ := u
      simp
  · intro e
    unfold Url.fromVariables Url.urlVariable
    rw [EnvFile.load_eq_merged]
    cases (EnvFile.merged vs text).get? "SOLR_URL" with
    | none => simp [eq_comm]
    | some held => simp

/-- An empty name is that of no environment, whatever is missing besides. -/
example : read [] [("APP_ENVIRONMENT", "")] "APP_ENVIRONMENT=local" = .error .badEnvironment := by
  rfl

end Settings

end SearchClient
