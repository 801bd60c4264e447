/-
  The settings of a program that runs, from all their sources.

  * `HostFor` and `PortFor` are what a configured host and port stand for;
  * `get?_override_host`, `get?_override_port`: the command line comes before all that
    was loaded, and `port_of_parse`: a port that it names is one;
  * `settings_by_precedence`: the value of each key, the list of all settings, what
    putting more values changes, and the address of the gateway.
-/
import Mathlib
import Runpad.Program
import Runpad.Proofs.Number.Decimal
import Runpad.Proofs.Settings.Sources

namespace Runpad

/-! ## The command line -/

namespace CommandLine

theorem port_of_portOf {value : Text} {port : Nat} (h : portOf value = some port) :
    1 ≤ port ∧ port ≤ 65535 := by
  unfold portOf readPort at h
  cases hn : readLong64 value with
  | error fault =>
    rw [hn] at h
    cases h
  | ok n =>
    rw [hn, ok_bind] at h
    split at h
    · next hrange =>
      obtain rfl : n.toNat = port := Option.some.inj h
      simp only [lastPort] at hrange
      omega
    · cases h

/-- A port that the command line names is one. -/
theorem port_of_parse {words : List Text} {a : Arguments} {port : Nat}
    (h : parse words = .ok a) (hport : a.port = some port) : 1 ≤ port ∧ port ≤ 65535 := by
  obtain ⟨⟨p, command⟩, -, h⟩ := bind_eq_ok_iff.1 h
  -- With a command or without one, a slot has the value that the port is read from.
  have hvalue : ∃ value, portOf value = some port := by
    cases command
    all_goals
      obtain ⟨task, -, h⟩ := bind_eq_ok_iff.1 h
      obtain ⟨settled, -, h⟩ := bind_eq_ok_iff.1 h
      obtain rfl := Except.ok.inj h
      obtain ⟨value, -, hvalue⟩ := Option.bind_eq_some_iff.1 hport
      exact ⟨value, hvalue⟩
  obtain ⟨value, hvalue⟩ := hvalue
  exact port_of_portOf hvalue

end CommandLine

namespace Settings

variable {value : Text} {s : Settings}

/-- A command line that names no host and no port changes nothing. -/
theorem override_eq_self {a : CommandLine.Arguments} (hhost : a.host = none)
    (hport : a.port = none) : s.override a = s := by
  rw [override, hhost, hport]
  rfl

theorem get?_override_host (a : CommandLine.Arguments) (s : Settings) :
    (s.override a).get? hostKey = a.host.or (s.get? hostKey) := by
  have hne : portKey ≠ hostKey := by decide
  cases hh : a.host <;> cases hp : a.port <;> simp [override, hh, hp, get?_set, hne]

theorem get?_override_port (a : CommandLine.Arguments) (s : Settings) :
    (s.override a).get? portKey = (a.port.map Number.digits).or (s.get? portKey) := by
  have hne : hostKey ≠ portKey := by decide
  cases hh : a.host <;> cases hp : a.port <;> simp [override, hh, hp, get?_set, hne]

/-! ## The address -/

/-- The host that a configured text stands for. -/
inductive HostFor (t : Text) : Text → Prop
  | blank : (∀ c ∈ t, Text.isBlank c = true) → HostFor t defaultHost
  | given : (∃ c ∈ t, Text.isBlank c = false) → HostFor t t

/-- The port that a configured text stands for. -/
inductive PortFor (t : Text) : Nat → Prop
  | number {n : Nat} : Number.IsWord (Text.trim t) n → PortFor t n
  | other : (∀ n, ¬ Number.IsWord (Text.trim t) n) → PortFor t defaultPort

theorem hostFor_host (h : s.get? hostKey = some value) : HostFor value s.host := by
  rw [host, h]
  by_cases hblank : Text.trim value = []
  · rw [Option.filter_some, if_neg (by simpa using hblank)]
    exact .blank (Text.trim_eq_nil_iff.1 hblank)
  · rw [Option.filter_some, if_pos (by simpa using hblank)]
    rw [Text.trim_eq_nil_iff] at hblank
    push Not at hblank
    exact .given (by simpa using hblank)

theorem portFor_port (h : s.get? portKey = some value) : PortFor value s.port := by
  rw [port, h, Option.bind_some]
  cases hword : Number.word? (Text.trim value) with
  | some n => exact .number (Number.word?_eq_some_iff.1 hword)
  | none =>
    refine .other fun n hn => ?_
    rw [Number.word?_eq_some_iff.2 hn] at hword
    cases hword

/-- The digits of a port are read as that port. -/
theorem portFor_digits {n port : Nat} (hn : n < 65536) (h : PortFor (Number.digits n) port) :
    port = n := by
  have hword := Number.word?_digits hn
  rw [← Number.trim_digits] at hword
  cases h with
  | number h => exact Option.some.inj ((Number.word?_eq_some_iff.2 h).symm.trans hword)
  | other h => exact absurd (Number.word?_eq_some_iff.1 hword) (h n)

/-! ## All sources -/

variable {words : List Text} {env : Environment} {disk : Disk} {start : Start}

theorem read_eq_ok (h : Start.read words env disk = .ok start) :
    CommandLine.parse words = .ok start.arguments ∧ start.file = defaultFile env ∧
      start.settings = (loadFrom (defaultFile env) env disk).override start.arguments := by
  unfold Start.read at h
  cases ha : CommandLine.parse words with
  | error refusal =>
    rw [ha] at h
    cases h
  | ok a =>
    rw [ha] at h
    obtain rfl := Except.ok.inj h
    exact ⟨rfl, rfl, rfl⟩

/-- A program whose words can be followed starts, even without a log. -/
theorem exists_read {a : CommandLine.Arguments} (h : CommandLine.parse words = .ok a)
    (env : Environment) (disk : Disk) :
    ∃ start, Start.read words env disk = .ok start ∧ start.arguments = a := by
  unfold Start.read
  rw [h]
  exact ⟨_, rfl, rfl⟩

/-- **The address is made of the host and the port that the command line names, or else
    of those that were loaded.** -/
theorem address_of_read (h : Start.read words env disk = .ok start) :
    ∃ host port, start.settings.address = host ++ ':' :: Number.digits port ∧
      (∃ t, start.arguments.host.or
          ((loadFrom (defaultFile env) env disk).get? hostKey) = some t ∧ HostFor t host) ∧
      (start.arguments.port = some port ∨ start.arguments.port = none ∧
        ∃ t, (loadFrom (defaultFile env) env disk).get? portKey = some t ∧ PortFor t port) := by
  obtain ⟨hparse, -, hsettings⟩ := read_eq_ok h
  have hloaded : ∀ key, (∃ value, (key, value) ∈ builtIn env) →
      ∃ t, (loadFrom (defaultFile env) env disk).get? key = some t :=
    fun key hkey => get?_load_of_builtIn env _ hkey
  have hhost : ∃ t, start.settings.get? hostKey = some t := by
    rw [hsettings, get?_override_host]
    cases start.arguments.host with
    | some named => exact ⟨named, rfl⟩
    | none =>
      rw [Option.none_or]
      exact hloaded hostKey ⟨defaultHost, List.mem_cons_self⟩
  obtain ⟨t, ht⟩ := hhost
  refine ⟨start.settings.host, start.settings.port, rfl, ⟨t, ?_, hostFor_host ht⟩, ?_⟩
  · rw [← get?_override_host, ← hsettings, ht]
  cases hname : start.arguments.port with
  | some named =>
    have hget : start.settings.get? portKey = some (Number.digits named) := by
      rw [hsettings, get?_override_port, hname, Option.map_some, Option.some_or]
    have hrange := CommandLine.port_of_parse hparse hname
    exact Or.inl (congrArg some (portFor_digits (by omega) (portFor_port hget)).symm)
  | none =>
    obtain ⟨t, ht⟩ := hloaded portKey
      ⟨Number.digits defaultPort, List.mem_cons_of_mem _ List.mem_cons_self⟩
    refine Or.inr ⟨rfl, t, ht, portFor_port ?_⟩
    rw [hsettings, get?_override_port, hname, Option.map_none, Option.none_or, ht]

/-- **Settings come from their sources in order.**  Whatever the settings file holds, it has
    lines, and the value of each key is the one that its first source gives.  Values that
    are put later replace those under their keys and no others, and the entries are at
    any time what can be looked up, in increasing order of the keys.  The address of a
    program that starts is made in this way too. -/
theorem settings_by_precedence (env : Environment) (content : Option Bytes) :
    (∃ lines, TextLines (content.getD []) lines) ∧
    (∀ lines, TextLines (content.getD []) lines → ∀ key value?,
      (load env content).get? key = value? ↔ Provided env lines key value?) ∧
    (∀ sets key,
      (∀ value, LastUnder sets key value →
        ((load env content).setAll sets).get? key = some value) ∧
      ((∀ value, (key, value) ∉ sets) →
        ((load env content).setAll sets).get? key = (load env content).get? key)) ∧
    (∀ sets, ((load env content).setAll sets).Ordered ∧
      ∀ key value, (key, value) ∈ ((load env content).setAll sets).entries ↔
        ((load env content).setAll sets).get? key = some value) ∧
    (∀ words disk start, (disk.read (defaultFile env)).toOption = content →
      Start.read words env disk = .ok start →
      ∃ host port, start.settings.address = host ++ ':' :: Number.digits port ∧
        (∃ t, start.arguments.host.or ((load env content).get? hostKey) = some t ∧
          HostFor t host) ∧
        (start.arguments.port = some port ∨ start.arguments.port = none ∧
          ∃ t, (load env content).get? portKey = some t ∧ PortFor t port)) := by
  refine ⟨⟨_, textLines_texts _⟩, fun lines hlines key value? => provided_iff hlines,
    fun sets key => ⟨fun value hlast => get?_setAll_of_last hlast _, fun habsent => ?_⟩,
    fun sets => ?_, ?_⟩
  · refine get?_setAll_of_absent ?_ _
    rintro ⟨_, value⟩ hmem rfl
    exact habsent value hmem
  · have hordered := (ordered_load env content).setAll sets
    exact ⟨hordered, fun key value => hordered.mem_entries_iff⟩
  · rintro words disk start rfl h
    exact address_of_read h

/-- Lines with a comment, with blanks, and with a key that comes again. -/
def mixedLines : List Text :=
  ["# k=0".toList, " k = a=b ".toList, "k=1".toList, "FLEXCODE_GATEWAY_HOST=far".toList]

/-- These lines, and a last one behind one that is no text. -/
def mixedFile : Bytes :=
  Utf8.encode (mixedLines.flatMap (· ++ ['\n'])) ++ 0xFF :: Utf8.encode "\nk=2".toList

/-- Variables, of which one is a setting. -/
def mixedVariables : Environment :=
  { bindings := [(['k'], ['3']), (portKey, " +07 ".toList), ("HOME".toList, "/h".toList)] }

/-- A disk with this file as the settings file. -/
def mixedDisk : Disk :=
  ⟨[], [([['h']], .directory), ([['h'], ".config".toList], .directory),
    ([['h'], ".config".toList, ownDirectory], .directory),
    ([['h'], ".config".toList, ownDirectory, ".flexcoderc".toList], .file mixedFile)]⟩

/-- The last line for a key of others, a variable for the port, and a blank host. -/
theorem mixedSources_loaded :
    TextLines mixedFile mixedLines ∧
    (load mixedVariables (some mixedFile)).get? ['k'] = some ['1'] ∧
    (load mixedVariables (some mixedFile)).get? portKey = some " +07 ".toList ∧
    (load mixedVariables (some mixedFile)).get? ['j'] = none ∧
    ((load mixedVariables (some mixedFile)).setAll [(['k'], []), (['k'], ['4'])]).get? ['k'] =
      some ['4'] ∧
    ∃ start, (mixedDisk.read (defaultFile mixedVariables)).toOption = some mixedFile ∧
      Start.read ["--host".toList, [' ']] mixedVariables mixedDisk = .ok start ∧
      ∃ host port, start.settings.address = host ++ ':' :: Number.digits port ∧
        HostFor [' '] host ∧ PortFor " +07 ".toList port := by
  have hlines : TextLines mixedFile mixedLines :=
    ⟨[[0xFF], Utf8.encode "k=2".toList], by decide, by
      rintro part ⟨⟩ t ht
      exact Utf8.decode?_eq_none_iff.1 (by decide : Utf8.decode? [0xFF] = none) t ht.symm⟩
  obtain ⟨-, hvalues, hsets, -, haddress⟩ := settings_by_precedence mixedVariables (some mixedFile)
  have hk : NoVariable mixedVariables ['k'] := fun h => absurd h (by decide)
  have hj : NoVariable mixedVariables ['j'] := fun h => absurd h (by decide)
  have hport : (load mixedVariables (some mixedFile)).get? portKey = some " +07 ".toList :=
    (hvalues mixedLines hlines portKey _).2
      (.environment (by decide) ⟨[(['k'], ['3'])], [("HOME".toList, "/h".toList)], rfl, by decide⟩)
  refine ⟨hlines, (hvalues mixedLines hlines ['k'] _).2 (.file hk (lastLine_iff.2 ?_)), hport,
    (hvalues mixedLines hlines ['j'] _).2 (.nowhere hj (absent_iff.1 (by decide)) ?_),
    (hsets _ ['k']).1 ['4'] ⟨[(['k'], [])], [], rfl, by simp⟩, ?_⟩
  · exact ⟨[(['k'], "a=b".toList)], [(hostKey, "far".toList)], by decide, by decide⟩
  · intro value hmem
    have hkeys : ['j'] ∉ (builtIn mixedVariables).map Prod.fst := by decide
    exact hkeys (List.mem_map_of_mem hmem)
  have hread : (mixedDisk.read (defaultFile mixedVariables)).toOption = some mixedFile := by decide
  have hparse : CommandLine.parse ["--host".toList, [' ']] = .ok { host := some [' '] } := by
    decide
  obtain ⟨start, hstart, harguments⟩ := exists_read hparse mixedVariables mixedDisk
  obtain ⟨host, port, hwritten, ⟨t, ht, hhost⟩, hports⟩ := haddress _ _ start hread hstart
  rw [harguments] at ht hports
  refine ⟨start, hread, hstart, host, port, hwritten, ?_, ?_⟩
  · obtain rfl : [' '] = t := Option.some.inj ht
    exact hhost
  · obtain hnamed | ⟨-, t, ht, hports⟩ := hports
    · cases hnamed
    · rw [hport] at ht
      rwa [Option.some.inj ht]

end Settings

end Runpad
