import SearchClient.Config.Variables
import SearchClient.Proofs.Config.Layers

/-!
# Variables as a layer

Variables whose names are plain make a plain layer.  What it has under a name is the
text of the variable of that name with the lead of settings before it.

## Main definitions

* `Variables.Plain` — variables with plain names.
* `Variables.setting?` — the text of the variable that holds a setting.

## Main results

* `Variables.plain_settings` — plain variables make a plain layer.
* `Variables.defined?_settings` — **what variables have under a name.**
-/

namespace SearchClient.Variables

open Text (lowercase Settled)

/-- The text of the variable that holds a setting; its name may be written in capital
or small letters. -/
def setting? (name : String) : Variables → Option String
  | [] => none
  | (k, text) :: vs =>
    if (lowercase k).toList = settingsLead ++ name.toList then some text else setting? name vs

/-- Names that differ in more than the case of their letters, and name settings that
are no paths. -/
structure Plain (vs : Variables) : Prop where
  /-- No two names are equal in lower case. -/
  nodup : (vs.map fun v => lowercase v.1).Nodup
  /-- No setting has two underscores side by side in its name. -/
  underscores : ∀ v ∈ vs, ∀ cs, (lowercase v.1).toList = settingsLead ++ cs → ¬ ['_', '_'] <:+: cs
  /-- No setting has a full stop in its name. -/
  stop : ∀ v ∈ vs, ∀ cs, (lowercase v.1).toList = settingsLead ++ cs → '.' ∉ cs
  /-- No setting has a bracket in its name. -/
  bracket : ∀ v ∈ vs, ∀ cs, (lowercase v.1).toList = settingsLead ++ cs → '[' ∉ cs

theorem Plain.tail {v : String × String} {vs : Variables} (h : Plain (v :: vs)) : Plain vs where
  nodup := (List.nodup_cons.1 h.nodup).2
  underscores := fun w hw => h.underscores w (List.mem_cons_of_mem v hw)
  stop := fun w hw => h.stop w (List.mem_cons_of_mem v hw)
  bracket := fun w hw => h.bracket w (List.mem_cons_of_mem v hw)

/-- Single underscores stay. -/
theorem stopsForUnderscores_eq_self {cs : List Char} (h : ¬ ['_', '_'] <:+: cs) :
    stopsForUnderscores cs = cs := by
  induction cs with
  | nil => rfl
  | cons c cs ih =>
    have hcs := ih fun hin => h (hin.trans (List.suffix_cons c cs).isInfix)
    unfold stopsForUnderscores
    split
    · next rest heq =>
      obtain ⟨rfl, rfl⟩ := List.cons.inj heq
      exact absurd (List.prefix_append ['_', '_'] rest).isInfix h
    · next heq =>
      obtain ⟨rfl, rfl⟩ := List.cons.inj heq
      rw [hcs]
    · next heq => cases heq

/-- The setting that a variable holds. -/
theorem settingName?_eq_some {k n : String}
    (h : ∀ cs, (lowercase k).toList = settingsLead ++ cs → ¬ ['_', '_'] <:+: cs) :
    settingName? k = some n ↔ (lowercase k).toList = settingsLead ++ n.toList := by
  unfold settingName?
  by_cases hlead : settingsLead <+: (lowercase k).toList
  · obtain ⟨cs, hcs⟩ := hlead
    have hpre : settingsLead.isPrefixOf (settingsLead ++ cs) = true :=
      List.isPrefixOf_iff_prefix.2 (List.prefix_append _ _)
    rw [← hcs]
    simp only [hpre, if_true, List.drop_left, Option.some.injEq, List.append_cancel_left_eq,
      stopsForUnderscores_eq_self (h cs hcs.symm)]
    constructor
    · rintro rfl
      rw [String.toList_ofList]
    · rintro rfl
      rw [String.ofList_toList]
  · have hnot : settingsLead.isPrefixOf (lowercase k).toList = false := by
      rwa [← Bool.not_eq_true, List.isPrefixOf_iff_prefix]
    refine iff_of_false (by simp [hnot]) fun hn => hlead ?_
    rw [hn]
    exact List.prefix_append _ _

/-- The names of settings are in lower case. -/
theorem lowercase_setting {k n : String} (h : (lowercase k).toList = settingsLead ++ n.toList) :
    lowercase n = n := by
  refine Text.lowercase_of_settled fun c hc => Text.settled_of_mem_lowercase (s := k) ?_
  rw [h]
  exact List.mem_append_right _ hc

theorem mem_settings {vs : Variables} (h : vs.Plain) {e : String × Node} (he : e ∈ vs.settings) :
    ∃ v ∈ vs, (lowercase v.1).toList = settingsLead ++ e.1.toList ∧ e.2 = .text v.2 := by
  obtain ⟨v, hv, hve⟩ := List.mem_filterMap.1 he
  obtain ⟨n, hn, rfl⟩ := Option.map_eq_some_iff.1 hve
  exact ⟨v, hv, (settingName?_eq_some (h.underscores v hv)).1 hn, rfl⟩

/-- **Plain variables make a plain layer.** -/
theorem plain_settings {vs : Variables} (h : vs.Plain) : Entries.Plain vs.settings where
  stop := fun e he => by
    obtain ⟨v, hv, hname, -⟩ := mem_settings h he
    exact h.stop v hv _ hname
  bracket := fun e he => by
    obtain ⟨v, hv, hname, -⟩ := mem_settings h he
    exact h.bracket v hv _ hname
  nodup := by
    -- settings of the same name come from variables of the same name
    refine List.pairwise_map.2 (List.pairwise_filterMap.2 ?_)
    refine (List.pairwise_map.1 h.nodup).imp_of_mem fun {v w} hv hw hne e he f hf heq => hne ?_
    obtain ⟨n, hn, rfl⟩ := Option.map_eq_some_iff.1 he
    obtain ⟨m, hm, rfl⟩ := Option.map_eq_some_iff.1 hf
    rw [settingName?_eq_some (h.underscores v hv)] at hn
    rw [settingName?_eq_some (h.underscores w hw)] at hm
    have hnm : n = m := by
      rw [← lowercase_setting hn, ← lowercase_setting hm]
      exact heq
    rw [← String.toList_inj, hn, hm, hnm]
  filled := fun e he => by
    obtain ⟨v, -, -, htext⟩ := mem_settings h he
    rw [htext]
    exact Node.noConfusion

/-- **What variables have under a name.** -/
theorem defined?_settings {vs : Variables} (h : vs.Plain) (name : String) :
    Entries.defined? name vs.settings = (vs.setting? name).map .text := by
  induction vs with
  | nil => rfl
  | cons v vs ih =>
    obtain ⟨k, text⟩ := v
    have hname := fun n => settingName?_eq_some (n := n) (h.underscores (k, text) List.mem_cons_self)
    rw [setting?]
    cases hk : settingName? k with
    | none =>
      have hsettings : settings ((k, text) :: vs) = settings vs :=
        List.filterMap_cons_none (congrArg (Option.map fun n => (n, Node.text text)) hk)
      have hlead : ¬ (lowercase k).toList = settingsLead ++ name.toList := fun hlead => by
        rw [(hname name).2 hlead] at hk
        cases hk
      rw [hsettings, if_neg hlead, ih h.tail]
    | some n =>
      have hsettings : settings ((k, text) :: vs) = (n, .text text) :: settings vs :=
        List.filterMap_cons_some (congrArg (Option.map fun n => (n, Node.text text)) hk)
      have hn := (hname n).1 hk
      have hsame : lowercase n = name ↔ (lowercase k).toList = settingsLead ++ name.toList := by
        rw [lowercase_setting hn, hn, List.append_cancel_left_eq, String.toList_inj]
      rw [hsettings, Entries.defined?]
      by_cases hlead : (lowercase k).toList = settingsLead ++ name.toList
      · rw [if_pos hlead, if_pos (hsame.2 hlead)]
        rfl
      · rw [if_neg hlead, if_neg (mt hsame.1 hlead), ih h.tail]

end SearchClient.Variables
