/-
  The list of the settings as a settings file.

  * `Plain` is an entry whose line is read as that entry (`Plain.parseLine`); what was
    read from a line is plain (`IsEntry.plain`), and so are the built-in settings in a
    usual environment (`plain_builtIn`);
  * `textLines_encode`: lines that are written come back, so that a file of plain entries
    has these entries (`fileEntries_encode`);
  * `entries_load`: a file of all entries of loaded settings gives them again, whatever
    the built-in values are;
  * `listing_reloads`: the printed list is such a file.
-/
import Mathlib
import Runpad.Proofs.Gateway.Stream
import Runpad.Proofs.Settings.Precedence

namespace Runpad.Settings

open Text (Stripped)

variable {env env' : Environment} {content : Option Bytes} {lines : List Text}
  {line key value : Text} {s : Settings}

/-! ## Entries that are read as they are written -/

/-- An entry with nothing in it that reading its line would change or take for something
    else. -/
structure Plain (key value : Text) : Prop where
  bareKey : Text.trim key = key
  bareValue : Text.trim value = value
  noEquals : '=' ∉ key
  noComment : key.head? ≠ some '#'
  oneLine : '\n' ∉ key ++ '=' :: value

/-- **The line of a plain entry is read as that entry.** -/
theorem Plain.parseLine (h : Plain key value) :
    parseLine (key ++ '=' :: value) = some (key, value) := by
  have hkey := (Text.trim_eq_self_iff.1 h.bareKey).1
  have hvalue := (Text.trim_eq_self_iff.1 h.bareValue).2
  have hbare : Text.trim (key ++ '=' :: value) = key ++ '=' :: value := by
    refine Text.trim_eq_self_iff.2 ⟨fun c hc => ?_, fun c hc => ?_⟩
    · cases key with
      | nil =>
        obtain rfl : '=' = c := by simpa using hc
        rfl
      | cons first key => exact hkey c hc
    · cases value with
      | nil =>
        obtain rfl : '=' = c := by simpa using hc
        rfl
      | cons first value =>
        rw [List.getLast?_append_cons, List.getLast?_cons_cons] at hc
        exact hvalue c hc
  rw [parseLine_split hbare h.noEquals, if_neg h.noComment, h.bareKey, h.bareValue]

/-- **What was read from a line is plain.** -/
theorem IsEntry.plain (h : IsEntry line key value) (hline : '\n' ∉ line) : Plain key value := by
  obtain ⟨left, right, hstripped, hequals, hcomment, hkey, hvalue⟩ := h
  obtain ⟨before, after, rfl, -, -⟩ := hstripped.around
  obtain ⟨lead, trail, rfl, hlead, -⟩ := hkey.around
  obtain ⟨lead', trail', rfl, -, -⟩ := hvalue.around
  refine ⟨?_, ?_, ?_, ?_, ?_⟩
  · exact Text.trim_eq_self_iff.2 ⟨hkey.starts, hkey.ends⟩
  · exact Text.trim_eq_self_iff.2 ⟨hvalue.starts, hvalue.ends⟩
  · simp_all
  · -- The line starts with no blank, so nothing was cut off in front of the key.
    cases lead with
    | nil =>
      cases key with
      | nil => simp
      | cons c key => exact hcomment
    | cons c lead =>
      have hblank := hlead c List.mem_cons_self
      rw [hstripped.starts c rfl] at hblank
      cases hblank
  · simp_all

instance (key value : Text) : Decidable (Plain key value) :=
  decidable_of_iff (Text.trim key = key ∧ Text.trim value = value ∧ '=' ∉ key ∧
      key.head? ≠ some '#' ∧ '\n' ∉ key ++ '=' :: value)
    ⟨fun ⟨hkey, hvalue, hequals, hcomment, hline⟩ => ⟨hkey, hvalue, hequals, hcomment, hline⟩,
      fun h => ⟨h.bareKey, h.bareValue, h.noEquals, h.noComment, h.oneLine⟩⟩

/-! ## The built-in settings -/

theorem beside_eq (directory path : Path) (h : Path.isAbsolute path = false) :
    ∃ sep, (sep = [] ∨ sep = ['/']) ∧ Path.beside directory path = directory ++ (sep ++ path) := by
  unfold Path.beside
  rw [h]
  by_cases hnil : directory = []
  · exact ⟨[], Or.inl rfl, by simp [hnil]⟩
  · by_cases hslash : directory.getLast? = some '/'
    · exact ⟨[], Or.inl rfl, by simp [hnil, hslash]⟩
    · exact ⟨['/'], Or.inr rfl, by simp [hnil, hslash]⟩

/-- The path of the log is the directory of temporary files and a text that is plain. -/
theorem exists_logPath (env : Environment) : ∃ tail,
    defaultLogPath env = env.temporaryDirectory ++ tail ∧ Plain logPathKey tail ∧ tail ≠ [] := by
  obtain ⟨sep, hsep, hdirectory⟩ := beside_eq env.temporaryDirectory ownDirectory (by decide)
  obtain ⟨sep', hsep', hpath⟩ := beside_eq (Path.beside env.temporaryDirectory ownDirectory)
    "flexcode.log".toList (by decide)
  refine ⟨sep ++ ownDirectory ++ (sep' ++ "flexcode.log".toList), ?_, ?_, ?_⟩
  · rw [defaultLogPath, hpath, hdirectory, List.append_assoc]
  · rcases hsep with rfl | rfl <;> rcases hsep' with rfl | rfl <;> decide
  · rcases hsep with rfl | rfl <;> rcases hsep' with rfl | rfl <;> decide

theorem plain_digits (n : Nat) : Plain portKey (Number.digits n) where
  bareKey := by decide
  bareValue := Number.trim_digits n
  noEquals := by decide
  noComment := by decide
  oneLine := by
    have hdigits : '\n' ∉ Number.digits n := fun h =>
      absurd (Number.isDigit_of_mem_digits h) (by decide)
    have hkey : '\n' ∉ portKey := by decide
    simp [hdigits, hkey]

theorem plain_defaultLogPath (htemporary : '\n' ∉ env.temporaryDirectory)
    (hblank : ∀ c ∈ env.temporaryDirectory.head?, Text.isBlank c = false) :
    Plain logPathKey (defaultLogPath env) := by
  obtain ⟨tail, htail, hplain, hne⟩ := exists_logPath env
  have hbare := Text.trim_eq_self_iff.1 hplain.bareValue
  have hline := hplain.oneLine
  rw [htail]
  refine { hplain with bareValue := ?_, oneLine := by simp_all }
  refine Text.trim_eq_self_iff.2 ⟨fun c hc => ?_, fun c hc => ?_⟩
  · cases hd : env.temporaryDirectory with
    | nil =>
      rw [hd] at hc
      exact hbare.1 c hc
    | cons first rest =>
      rw [hd] at hc hblank
      exact hblank c hc
  · rw [List.getLast?_append_of_ne_nil _ hne] at hc
    exact hbare.2 c hc

/-- **The built-in settings are plain** if the path of the log is. -/
theorem plain_builtIn (hpath : Plain logPathKey (defaultLogPath env))
    (h : (key, value) ∈ builtIn env) : Plain key value := by
  simp only [builtIn, List.mem_cons, List.not_mem_nil, or_false, Prod.mk.injEq] at h
  rcases h with ⟨rfl, rfl⟩ | ⟨rfl, rfl⟩ | h | h | h | h | h | ⟨rfl, rfl⟩
  · decide
  · exact plain_digits defaultPort
  iterate 5
    obtain ⟨rfl, rfl⟩ := h
    decide
  · exact hpath

/-! ## Files of plain entries -/

/-- **Lines that are written come back**, and an empty one after the last line feed. -/
theorem textLines_encode {ls : List Text} (h : ∀ l ∈ ls, '\n' ∉ l) :
    TextLines (Utf8.encode (ls.flatMap (· ++ ['\n']))) (ls ++ [[]]) := by
  refine ⟨[], ?_, by simp⟩
  rw [List.append_nil]
  induction ls with
  | nil => rfl
  | cons l ls ih =>
    rw [List.forall_mem_cons] at h
    have hbytes : Utf8.encode ((l :: ls).flatMap (· ++ ['\n'])) =
        Utf8.encode l ++ 10 :: Utf8.encode (ls.flatMap (· ++ ['\n'])) := by
      rw [List.flatMap_cons, Utf8.encode_append, Utf8.encode_append, List.append_assoc]
      rfl
    have hline : (Utf8.encode l).splitOn 10 = [Utf8.encode l] :=
      List.splitOn_eq_singleton (Gateway.feed_notMem_encode h.1)
    rw [hbytes, List.splitOn_append_cons_self, hline, ih h.2]
    rfl

/-- The line of an entry. -/
def entryLine (entry : Text × Text) : Text :=
  entry.1 ++ '=' :: entry.2

theorem parseLine_comment (t : Text) : parseLine ('#' :: t) = none := by
  have hhead : (Text.trim ('#' :: t)).head? = some '#' := by
    have hstart : Text.trimStart ('#' :: t) = '#' :: t :=
      Text.trimStart_eq_self_iff.2 (by rintro c ⟨⟩; rfl)
    rw [Text.trim, hstart, Text.trimEnd]
    split
    · rfl
    · rfl
  simp only [parseLine, hhead, if_true]

/-- A comment and the lines of plain entries are a file with these entries. -/
theorem fileEntries_encode {comment : Text} {entries : List (Text × Text)}
    (hcomment : '\n' ∉ comment) (h : ∀ entry ∈ entries, Plain entry.1 entry.2) :
    fileEntries (Utf8.encode ((('#' :: comment) :: entries.map entryLine).flatMap (· ++ ['\n']))) =
      entries := by
  have hlines : ∀ l ∈ ('#' :: comment) :: entries.map entryLine, '\n' ∉ l := by
    rw [List.forall_mem_cons, List.forall_mem_map]
    exact ⟨by simpa using hcomment, fun entry hentry => (h entry hentry).oneLine⟩
  have hread : (entries.map entryLine).filterMap parseLine = entries := by
    have hline : ∀ entry ∈ entries, (parseLine ∘ entryLine) entry = some entry :=
      fun entry hentry => (h entry hentry).parseLine
    rw [List.filterMap_map, List.filterMap_congr hline]
    exact List.filterMap_some
  rw [fileEntries_eq (textLines_encode hlines), List.filterMap_append, List.filterMap_cons,
    parseLine_comment, hread]
  exact List.append_nil entries

/-! ## Loading the entries again -/

/-- No variable of the environment is a setting. -/
def NoVariables (env : Environment) : Prop :=
  ∀ entry ∈ env.bindings, ¬ keyStart <+: entry.1

theorem NoVariables.entries (h : NoVariables env) : variableEntries env = [] := by
  refine List.filter_eq_nil_iff.2 fun entry hentry => ?_
  rw [List.isPrefixOf_iff_prefix]
  exact h entry hentry

/-- What was loaded without variables is plain. -/
theorem plain_load (hno : NoVariables env) (hpath : Plain logPathKey (defaultLogPath env))
    (h : (key, value) ∈ (load env content).entries) : Plain key value := by
  have hlines := textLines_texts (content.getD [])
  rw [(ordered_load env content).mem_entries_iff, provided_iff hlines] at h
  cases h with
  | environment hkey hlast => exact absurd hkey (hno _ hlast.mem)
  | file _ hlast =>
    obtain ⟨before, line, after, hsplit, hentry, -⟩ := hlast
    exact hentry.plain (hlines.oneLine (by rw [hsplit]; simp))
  | builtIn _ _ hmem => exact plain_builtIn hpath hmem

/-- The built-in settings have the same keys everywhere. -/
theorem exists_builtIn (h : (key, value) ∈ builtIn env') : ∃ value, (key, value) ∈ builtIn env := by
  have hkeys : (builtIn env').map Prod.fst = (builtIn env).map Prod.fst := rfl
  have hkey : key ∈ (builtIn env).map Prod.fst := hkeys ▸ List.mem_map_of_mem h
  simpa using hkey

/-- **A file with all entries of loaded settings gives them again**, in any environment
    without settings. -/
theorem entries_load (hno : NoVariables env') {copy : Bytes}
    (hcopy : fileEntries copy = (load env content).entries) :
    (load env' (some copy)).entries = (load env content).entries := by
  have hordered := ordered_load env content
  refine (ordered_load env' (some copy)).entries_eq hordered fun key => ?_
  have hload : load env' (some copy) =
      (setAll (builtIn env') {}).setAll (load env content).entries := by
    rw [load, setAll_append, setAll_append, hno.entries, setAll_nil, Option.getD_some, hcopy]
  rw [hload]
  by_cases hkey : ∃ entry ∈ (load env content).entries, entry.1 = key
  · obtain ⟨value, hlast⟩ := exists_lastUnder hkey
    rw [get?_setAll_of_last hlast, hordered.mem_entries_iff.1 hlast.mem]
  · push Not at hkey
    have hnone : (load env content).get? key = none :=
      Option.eq_none_iff_forall_ne_some.2 fun value hvalue => hkey _ (mem_of_get? hvalue) rfl
    have hbuiltIn : ∀ entry ∈ builtIn env', entry.1 ≠ key := by
      rintro ⟨_, value⟩ hmem rfl
      obtain ⟨value', hvalue'⟩ := get?_load_of_builtIn env content (exists_builtIn hmem)
      rw [hnone] at hvalue'
      cases hvalue'
    rw [hnone, get?_setAll_of_absent hkey, get?_setAll_of_absent hbuiltIn]
    rfl

/-! ## The printed list -/

theorem exists_comment {colours : Colours} (hcolours : colours.output = false) {start : Start}
    (hfile : '\n' ∉ start.file) : ∃ comment, '\n' ∉ comment ∧ start.listing colours =
      (('#' :: comment) :: start.settings.entries.map entryLine).flatMap (· ++ ['\n']) := by
  have hlabel : "# config file:".toList = '#' :: " config file:".toList := rfl
  unfold Start.listing
  simp only [hcolours, Report.info, Bool.false_eq_true, if_false, hlabel, List.flatMap_cons,
    List.flatMap_map]
  refine ⟨" config file:".toList ++ ' ' :: (start.file ++
    if start.disk.holds start.file then [] else " (not present)".toList), ?_, ?_⟩
  · split_ifs <;> simp [hfile]
  · rfl

section Reloading

variable {σ : Type} {words : List Text} {disk disk' disk'' : Disk} {start : Start}

/-- **The printed list is a settings file with the same settings.** -/
theorem listing_reloads (peer : Gateway.Peer σ) (answers : Gateway.Endpoint → Bool) (input : Bytes)
    (s : σ) {colours : Colours} (hcolours : colours.output = false)
    (hstart : Start.read words env disk = .ok start) (htask : start.arguments.task = .config)
    (hhost : start.arguments.host = none) (hport : start.arguments.port = none)
    (hno : NoVariables env) (hfile : '\n' ∉ defaultFile env)
    (htemporary : '\n' ∉ env.temporaryDirectory)
    (hblank : ∀ c ∈ env.temporaryDirectory.head?, Text.isBlank c = false) {copy : Path}
    (hwrite : disk'.write copy
      (Utf8.encode (start.exit peer answers colours input s).1.output) = .ok disk'')
    (hno' : NoVariables env') :
    (loadFrom copy env' disk'').entries = start.settings.entries := by
  obtain ⟨-, hdefault, hsettings⟩ := read_eq_ok hstart
  have hloaded : start.settings = load env (disk.read (defaultFile env)).toOption := by
    rw [hsettings, override_eq_self hhost hport, loadFrom]
  have houtput : (start.exit peer answers colours input s).1.output = start.listing colours := by
    rw [Start.exit, htask]
  obtain ⟨comment, hcomment, hlisting⟩ := exists_comment hcolours (hdefault ▸ hfile)
  have hread : disk''.read copy = .ok (Utf8.encode (start.listing colours)) := by
    obtain ⟨place, hwritable⟩ := Disk.writable_of_write hwrite
    rw [Disk.write_of_writable hwritable, houtput] at hwrite
    obtain rfl := Except.ok.inj hwrite
    exact Disk.read_put hwritable _
  have hreload : loadFrom copy env' disk'' =
      load env' (some (Utf8.encode (start.listing colours))) := by
    rw [loadFrom, hread]
    rfl
  rw [hreload, hlisting, hloaded]
  refine entries_load hno' (fileEntries_encode hcomment fun entry hentry => ?_)
  exact plain_load hno (plain_defaultLogPath htemporary hblank) hentry

/-- An empty key, a value like a comment, an empty value, and carriage returns. -/
def oddFile : Bytes :=
  Utf8.encode " = #a=b\r\n\u00a0k#=\r\nFLEXCODE_ODD = \t1\r2\u3000".toList

/-- An account, and nothing else. -/
def bareAccount : Environment :=
  { accountHome := "/h".toList }

/-- A disk with this file as the settings file. -/
def oddDisk : Disk :=
  ⟨[], [([['h']], .directory), ([['h'], ".config".toList], .directory),
    ([['h'], ".config".toList, ownDirectory], .directory),
    ([['h'], ".config".toList, ownDirectory, ".flexcoderc".toList], .file oddFile)]⟩

/-- Odd entries are listed and loaded again. -/
theorem oddEntries_reloaded :
    ∃ start disk, Start.read ["config".toList] bareAccount oddDisk = .ok start ∧
      ([], "#a=b".toList) ∈ start.settings.entries ∧
      oddDisk.write "/h/copy".toList (Utf8.encode (start.exit Gateway.Stream.peer
        (fun _ => false) {} [] ⟨[], []⟩).1.output) = .ok disk ∧
      (loadFrom "/h/copy".toList {} disk).entries = start.settings.entries := by
  have hparse : CommandLine.parse ["config".toList] = .ok { task := .config } := by decide
  obtain ⟨start, hstart, harguments⟩ := exists_read hparse bareAccount oddDisk
  have hwritable : oddDisk.Writable "/h/copy".toList [['h'], "copy".toList] :=
    ⟨by decide, by decide, by decide⟩
  have hwrite := Disk.write_of_writable hwritable (Utf8.encode (start.exit Gateway.Stream.peer
    (fun _ => false) {} [] ⟨[], []⟩).1.output)
  have hno : NoVariables bareAccount := nofun
  have hno' : NoVariables {} := nofun
  have hblank : ∀ c ∈ bareAccount.temporaryDirectory.head?, Text.isBlank c = false := by
    rintro c ⟨⟩
    rfl
  have hreload := listing_reloads Gateway.Stream.peer (fun _ => false) [] ⟨[], []⟩ rfl hstart
    (by rw [harguments]) (by rw [harguments]) (by rw [harguments]) hno (by decide) (by decide)
    hblank hwrite hno'
  have hmem : ([], "#a=b".toList) ∈ start.settings.entries := by
    have hread : (oddDisk.read (defaultFile bareAccount)).toOption = some oddFile := by decide
    rw [(read_eq_ok hstart).2.2, override_eq_self (by rw [harguments]) (by rw [harguments]),
      loadFrom, hread]
    exact mem_of_get? (by decide)
  exact ⟨start, _, hstart, hmem, hwrite, hreload⟩

end Reloading

end Runpad.Settings
