/-
  Where the value of a setting comes from.

  * `Provided` names the source of a value: a variable, else the last line of the
    settings file, else the built-in settings;
  * `provided_iff`: loading agrees with it, whatever the file holds;
  * `ordered_load`: the keys of loaded settings increase.
-/
import Mathlib
import Runpad.Proofs.Settings.File

namespace Runpad

namespace Settings

variable {env : Environment} {content : Option Bytes} {lines : List Text} {key value : Text}

/-! ## Sources -/

/-- No variable is a setting with this key. -/
def NoVariable (env : Environment) (key : Text) : Prop :=
  keyStart <+: key → ∀ value, (key, value) ∉ env.bindings

/-- No line has an entry for this key. -/
def NoLine (lines : List Text) (key : Text) : Prop :=
  ∀ line ∈ lines, ∀ value, ¬ IsEntry line key value

/-- The value that the sources give to a key, if they give one.  A variable counts if
    its name starts like a key of the program; of several lines, or of several
    variables of one name, the last one counts. -/
inductive Provided (env : Environment) (lines : List Text) (key : Text) : Option Text → Prop
  | environment {value : Text} : keyStart <+: key → LastUnder env.bindings key value →
      Provided env lines key (some value)
  | file {value : Text} : NoVariable env key → LastLine lines key value →
      Provided env lines key (some value)
  | builtIn {value : Text} : NoVariable env key → NoLine lines key →
      (key, value) ∈ builtIn env → Provided env lines key (some value)
  | nowhere : NoVariable env key → NoLine lines key →
      (∀ value, (key, value) ∉ Settings.builtIn env) → Provided env lines key none

theorem variableEntries_absent_iff :
    (∀ entry ∈ variableEntries env, entry.1 ≠ key) ↔ NoVariable env key := by
  simp only [variableEntries, List.mem_filter, List.isPrefixOf_iff_prefix]
  constructor
  · intro h hkey value hvalue
    exact h (key, value) ⟨hvalue, hkey⟩ rfl
  · rintro h ⟨key', value⟩ ⟨hvalue, hkey⟩ rfl
    exact h hkey value hvalue

theorem lastUnder_variableEntries (hkey : keyStart <+: key)
    (h : LastUnder env.bindings key value) : LastUnder (variableEntries env) key value := by
  obtain ⟨before, after, heq, hafter⟩ := h
  let own (entry : Text × Text) : Bool := keyStart.isPrefixOf entry.1
  have hown : own (key, value) = true := List.isPrefixOf_iff_prefix.2 hkey
  have hvariables : variableEntries env = env.bindings.filter own := rfl
  refine ⟨before.filter own, after.filter own, ?_,
    fun entry hentry => hafter entry (List.mem_of_mem_filter hentry)⟩
  rw [hvariables, heq, List.filter_append, List.filter_cons_of_pos hown]

/-- Each built-in setting has a key of its own. -/
theorem nodup_builtIn (env : Environment) : ((builtIn env).map Prod.fst).Nodup := by
  have hkeys : (builtIn env).map Prod.fst = (builtIn {}).map Prod.fst := rfl
  rw [hkeys]
  decide

theorem lastUnder_of_nodup {entries : List (Text × Text)} (h : (entries.map Prod.fst).Nodup)
    (hmem : (key, value) ∈ entries) : LastUnder entries key value := by
  obtain ⟨before, after, rfl⟩ := List.append_of_mem hmem
  refine ⟨before, after, rfl, fun entry hentry heq => ?_⟩
  rw [List.map_append, List.map_cons] at h
  have hkey : key ∈ after.map Prod.fst := List.mem_map.2 ⟨entry, hentry, heq⟩
  exact (List.nodup_cons.1 h.of_append_right).1 hkey

/-- Loading puts the values of the three sources, one source after the other. -/
theorem load_eq (h : TextLines (content.getD []) lines) :
    load env content = ((setAll (builtIn env) {}).setAll (lines.filterMap parseLine)).setAll
      (variableEntries env) := by
  rw [load, setAll_append, setAll_append, fileEntries_eq h]

theorem get?_load_of_noVariable (h : TextLines (content.getD []) lines) (hvar : NoVariable env key) :
    (load env content).get? key =
      ((setAll (builtIn env) {}).setAll (lines.filterMap parseLine)).get? key := by
  rw [load_eq h, get?_setAll_of_absent (variableEntries_absent_iff.2 hvar)]

theorem get?_load_of_noLine (h : TextLines (content.getD []) lines) (hvar : NoVariable env key)
    (hline : NoLine lines key) :
    (load env content).get? key = (setAll (builtIn env) {}).get? key := by
  rw [get?_load_of_noVariable h hvar, get?_setAll_of_absent (absent_iff.2 hline)]

theorem Provided.get?_load (hp : Provided env lines key value?)
    (h : TextLines (content.getD []) lines) : (load env content).get? key = value? := by
  cases hp with
  | environment hkey hlast =>
    rw [load_eq h]
    exact get?_setAll_of_last (lastUnder_variableEntries hkey hlast) _
  | file hvar hlast =>
    rw [get?_load_of_noVariable h hvar]
    exact get?_setAll_of_last (lastLine_iff.1 hlast) _
  | builtIn hvar hline hmem =>
    rw [get?_load_of_noLine h hvar hline]
    exact get?_setAll_of_last (lastUnder_of_nodup (nodup_builtIn env) hmem) _
  | nowhere hvar hline hno =>
    rw [get?_load_of_noLine h hvar hline]
    refine get?_setAll_of_absent ?_ _
    rintro ⟨_, value⟩ hmem rfl
    exact hno value hmem

theorem exists_provided (env : Environment) (lines : List Text) (key : Text) :
    ∃ value?, Provided env lines key value? := by
  by_cases hvar : NoVariable env key
  · by_cases hline : NoLine lines key
    · by_cases hmem : ∃ value, (key, value) ∈ builtIn env
      · obtain ⟨value, hmem⟩ := hmem
        exact ⟨_, .builtIn hvar hline hmem⟩
      · exact ⟨_, .nowhere hvar hline (not_exists.1 hmem)⟩
    · rw [NoLine, ← absent_iff] at hline
      push Not at hline
      obtain ⟨value, hlast⟩ := exists_lastUnder hline
      exact ⟨_, .file hvar (lastLine_iff.2 hlast)⟩
  · unfold NoVariable at hvar
    push Not at hvar
    obtain ⟨hkey, value, hmem⟩ := hvar
    obtain ⟨value, hlast⟩ := exists_lastUnder ⟨_, hmem, rfl⟩
    exact ⟨_, .environment hkey hlast⟩

/-- **A key has the value that its first source gives it.** -/
theorem provided_iff (h : TextLines (content.getD []) lines) {value? : Option Text} :
    (load env content).get? key = value? ↔ Provided env lines key value? := by
  refine ⟨?_, fun hp => hp.get?_load h⟩
  rintro rfl
  obtain ⟨value?, hp⟩ := exists_provided env lines key
  rwa [hp.get?_load h]

theorem ordered_load (env : Environment) (content : Option Bytes) : (load env content).Ordered :=
  ordered_empty.setAll _

/-- A key with a built-in value has one. -/
theorem get?_load_of_builtIn (env : Environment) (content : Option Bytes)
    (h : ∃ value, (key, value) ∈ builtIn env) :
    ∃ value, (load env content).get? key = some value := by
  have hlines := textLines_texts (content.getD [])
  obtain ⟨value?, hp⟩ := exists_provided env (texts ((content.getD []).splitOn 10)) key
  rw [hp.get?_load hlines]
  cases hp with
  | environment | file | builtIn => exact ⟨_, rfl⟩
  | nowhere _ _ hno => exact absurd h (not_exists.2 hno)

end Settings

end Runpad
