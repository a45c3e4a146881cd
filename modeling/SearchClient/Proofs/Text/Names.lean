import SearchClient.Proofs.Document.Changes
import SearchClient.Proofs.Settings.Decode
import SearchClient.Proofs.Settings.Merged

/-!
# Protocols, environments and modifiers by name

A protocol and an environment are read from text in capital and small letters alike, a modifier
only as it is called.  In JSON a protocol, too, has to be written in small letters, so that JSON
takes fewer texts than plain text does, and the same value for each of them.

A protocol is named in text and has a tag in data, and a modifier has a key in documents, a title
in text and a tag in data.  That these are the same words is why what is written by one of them
can be read by the others.

## Main results

* `Modifier.title_eq_name`, `Modifier.tag_eq_name` — a modifier is called the same everywhere.
* `Protocol.reads`, `Environment.reads`, `Modifier.reads` — the readers of plain text.
* `Protocol.reads_json`, `Modifier.reads_json` — the readers of strings of JSON.
* `names_read` — **the texts that each reader takes, and how those of one type agree.**
-/

namespace SearchClient

/-! ### Modifiers -/

/-- In text a modifier is called as in documents. -/
theorem Modifier.title_eq_name (m : Modifier) : m.title = m.name := by
  cases m <;> decide +kernel

/-- In data a modifier is called as in documents. -/
theorem Modifier.tag_eq_name (m : Modifier) : m.tag = m.name := by
  cases m <;> decide

theorem Modifier.name_injective : Function.Injective Modifier.name := fun _ _ =>
  Modifier.name_inj.1

theorem Modifier.ofName?_eq_some {s : String} {m : Modifier} :
    Modifier.ofName? s = some m ↔ s = m.name := by
  simp only [Modifier.ofName?, Modifier.title_eq_name]
  exact find?_name_eq_some_iff Modifier.mem_all Modifier.name_injective

theorem Modifier.toOption_ofString_eq_some {s : String} {m : Modifier} :
    (Modifier.ofString s).toOption = some m ↔ s = m.name := by
  have hfind : (Modifier.ofString s).toOption = Modifier.all.find? fun m => m.tag = s := by
    rw [Modifier.ofString]
    cases Modifier.all.find? fun m => m.tag = s <;> rfl
  simp only [hfind, Modifier.tag_eq_name]
  exact find?_name_eq_some_iff Modifier.mem_all Modifier.name_injective

/-! ### Plain text -/

theorem Protocol.ascii_name (p : Protocol) : Ascii p.name := by
  cases p <;> decide

theorem Modifier.ascii_name (m : Modifier) : Ascii m.name := by
  cases m <;> decide

theorem Protocol.sameLetters_name (p : Protocol) : SameLetters p.name p.name := by
  cases p <;> decide

theorem Protocol.reads : ReadsNames Protocol.name SameLetters Protocol.ofText? :=
  .of_lowerAscii (fun _ _ => Protocol.ofText?_eq_some) Protocol.sameLetters_name
    Protocol.ascii_name

theorem Environment.reads : ReadsNames Environment.name SameLetters Environment.ofText? := by
  refine .of_lowerAscii (fun _ _ => Environment.ofText?_eq_some) ?_ ?_
  · intro e
    cases e <;> decide
  · intro e
    cases e <;> decide

theorem Modifier.reads : ReadsNames Modifier.name Eq Modifier.ofName? :=
  .of_eq (fun _ _ => Modifier.ofName?_eq_some) Modifier.ascii_name

/-! ### Strings of JSON -/

theorem Modifier.reads_json :
    ReadsNames Modifier.name Eq fun s => (Modifier.ofString s).toOption :=
  .of_eq (fun _ _ => Modifier.toOption_ofString_eq_some) Modifier.ascii_name

/-- A string of JSON is read as a protocol only if it is in small letters. -/
theorem Protocol.toOption_protocol_string (s : String) :
    (Decode.protocol (.string s)).toOption = Protocol.ofTag? s := by
  rw [Decode.protocol, Decode.protocolName]
  cases Protocol.ofTag? s <;> rfl

theorem Protocol.reads_json :
    ReadsNames Protocol.name Eq fun s => (Decode.protocol (.string s)).toOption := by
  simp only [Protocol.toOption_protocol_string]
  exact .of_eq (fun _ _ => Protocol.ofTag?_eq_some) Protocol.ascii_name

/-! ### All readers -/

/-- A text that is read exactly as it is written is read by a reader that takes more texts. -/
theorem ReadsNames.sub {α : Type} {name : α → String} {same : String → String → Prop}
    {read strict : String → Option α} (h : ReadsNames name same read)
    (hstrict : ReadsNames name Eq strict) {s : String} {a : α} (hs : strict s = some a) :
    read s = some a := by
  obtain rfl := (hstrict.eq_some_iff s a).1 hs
  exact h.own a

/-- **Readers of names.**  Plain text is read as a protocol or as an environment if and only if
it is the name with some of the letters A to Z for a to z, and as a modifier if and only if it is
the name; a string of JSON is read as a protocol or as a modifier if and only if it is the name.
Each reader reads the name of a value as the value, takes no text in two ways, and none with a
character beyond ASCII.  What is read from a string of JSON is read from the same plain text.
Tags and titles are the same words as names, so all of this is true of them, too. -/
theorem names_read :
    ReadsNames Protocol.name SameLetters Protocol.ofText? ∧
      ReadsNames Environment.name SameLetters Environment.ofText? ∧
      ReadsNames Modifier.name Eq Modifier.ofName? ∧
      ReadsNames Protocol.name Eq (fun s => (Decode.protocol (.string s)).toOption) ∧
      ReadsNames Modifier.name Eq (fun s => (Modifier.ofString s).toOption) ∧
      (∀ s p, Decode.protocol (.string s) = .ok p → Protocol.ofText? s = some p) ∧
      (∀ s m, Modifier.ofString s = .ok m → Modifier.ofName? s = some m) ∧
      (∀ p : Protocol, p.tag = p.name) ∧ ∀ m : Modifier, m.title = m.name ∧ m.tag = m.name := by
  refine ⟨Protocol.reads, Environment.reads, Modifier.reads, Protocol.reads_json,
    Modifier.reads_json, ?_, ?_, Protocol.tag_eq_name, ?_⟩
  · intro s p h
    exact Protocol.reads.sub Protocol.reads_json (congrArg Except.toOption h)
  · intro s m h
    exact Modifier.reads.sub Modifier.reads_json (congrArg Except.toOption h)
  · intro m
    exact ⟨m.title_eq_name, m.tag_eq_name⟩

/-- The long s, which is a small letter of S outside ASCII, is no letter of a protocol. -/
example : Protocol.ofText? "HTTPſ" = none ∧ Protocol.ofText? "hTTpS" = some .https := by
  decide

end SearchClient
