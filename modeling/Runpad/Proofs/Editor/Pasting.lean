/-
  A paste is as if its text were typed.

  * `Text.keys` are the keys that type a text, one for each line break and one for each
    other character; `keys_eq`: they type its lines as a paste puts them in;
  * `handleAll` takes several events with no draw between them; `handleAll_keys`: typed
    keys go into the input if it has the focus, and `handleAll_pathKeys`: into the path
    of a prompt;
  * `pasted_as_typed`: so does a paste, and a paste in two parts is one paste, unless
    the parts share a line break (`OneMoreBreak`).
-/
import Mathlib
import Runpad.Proofs.Editor.PathEntry
import Runpad.Proofs.Text.Breaks
import Runpad.Proofs.TextArea.Flat

namespace Runpad

/-! ## Typing a text -/

/-- The keys that type a text. -/
def Text.keys : Text → List Key
  | '\r' :: '\n' :: rest => .enter :: keys rest
  | c :: rest => (if c = '\r' ∨ c = '\n' then .enter else .char c) :: keys rest
  | [] => []

/-- The key that types a character. -/
def Key.typing (c : Char) : Key :=
  if c = '\n' then .enter else .char c

theorem Text.keys_eq (t : Text) : t.keys = (Text.unifyBreaks t).map Key.typing := by
  induction t using Text.keys.induct with
  | case1 rest ih => simp [Text.keys, Text.unifyBreaks, Key.typing, ih]
  | case2 c rest hpair ih =>
    rw [Text.keys, Text.unifyBreaks, List.map_cons, ih, Key.typing]
    · by_cases hc : c = '\r' <;> simp [hc]
    · exact hpair
    · exact hpair
  | case3 => rfl

namespace Editor

variable {store : Store} {now : Nat} {e : Editor} {d : Disk} {p : Prompt}

/-- Takes events at their times, one after the other and with no draw between them, as
    long as nothing has to follow. -/
def handleAll (store : Store) : List (Nat × Event) → Editor → Disk → Option (Editor × Disk)
  | [], e, d => some (e, d)
  | (now, event) :: later, e, d =>
    match e.handle store now event d with
    | (.proceed, e, d) => handleAll store later e d
    | _ => none

/-- The editor after a text was typed in a region. -/
def typed (t : Text) (e : Editor) : Editor :=
  match e.focus with
  | .input => { e with input := e.input.insertAll t, modified := e.modified || !t.isEmpty }
  | .output => e

theorem typed_of_input (h : e.focus = .input) (t : Text) :
    e.typed t = { e with input := e.input.insertAll t, modified := e.modified || !t.isEmpty } := by
  simp only [typed, h]

theorem typed_of_output (h : e.focus = .output) (t : Text) : e.typed t = e := by
  simp only [typed, h]

theorem typed_nil (e : Editor) : e.typed [] = e := by
  cases h : e.focus with
  | input => simp [typed_of_input h, TextArea.insertAll]
  | output => exact typed_of_output h []

theorem typed_cons (c : Char) (t : Text) (e : Editor) :
    e.typed (c :: t) = (e.typed [c]).typed t := by
  cases h : e.focus with
  | input =>
    -- a character typed leaves the focus where it is
    have hnext : (e.typed [c]).focus = .input := by rw [typed_of_input h]; exact h
    rw [typed_of_input hnext, typed_of_input h, typed_of_input h]
    simp [TextArea.insertAll]
  | output => simp only [typed_of_output h]

theorem AtRest.typed (hr : e.AtRest) (t : Text) : (e.typed t).AtRest := by
  cases h : e.focus with
  | input =>
    rw [typed_of_input h]
    exact ⟨hr.prompt, hr.help⟩
  | output => rwa [typed_of_output h]

/-- A key that types a character is no command. -/
theorem command?_typing (c : Char) : command? (.typing c) {} = none := by
  unfold Key.typing
  split_ifs with hc
  · rfl
  · unfold command?
    split <;> simp_all

theorem moveOrEdit_typing (c : Char) (e : Editor) :
    e.moveOrEdit (.typing c) {} = e.typed [c] := by
  have hmove : move? e.pageRows (.typing c) = none := by
    unfold Key.typing
    split_ifs <;> rfl
  have hedit : edit? {} (.typing c) = some (TextArea.insert c) := by
    unfold Key.typing
    split_ifs with hc
    · subst hc
      exact congrArg some (funext TextArea.breakLine_eq_insert)
    · rfl
  rw [moveOrEdit, hmove, hedit, typed]
  cases e.focus with
  | input => simp [TextArea.insertAll]
  | output => rfl

theorem handle_typing (store : Store) (now : Nat) (d : Disk) (hr : e.AtRest) (c : Char) :
    e.handle store now (.key (.typing c) {}) d = (.proceed, e.typed [c], d) := by
  have hregion : e.pressInRegion now (.typing c) {} = (.proceed, e.typed [c]) := by
    rw [pressInRegion, command?_typing, ← moveOrEdit_typing]
    unfold Key.typing
    split_ifs <;> simp_all
  simp only [handle, press, hr.prompt, hr.help, hregion]
  rfl

/-- Keys that type a text at any times do so in the region that has the focus. -/
theorem handleAll_typing (store : Store) (d : Disk) (hr : e.AtRest) {t : Text}
    {events : List (Nat × Event)}
    (h : events.map Prod.snd = t.map fun c => .key (.typing c) {}) :
    handleAll store events e d = some (e.typed t, d) := by
  induction t generalizing events e with
  | nil =>
    obtain rfl := List.map_eq_nil_iff.1 h
    rw [handleAll, typed_nil]
  | cons c t ih =>
    obtain ⟨⟨now, event⟩, later, rfl, hevent, hlater⟩ := List.map_eq_cons_iff.1 h
    obtain rfl : event = .key (.typing c) {} := hevent
    rw [handleAll, handle_typing store now d hr c, typed_cons c t]
    exact ih (hr.typed [c]) hlater

/-- Character keys go into the path of a prompt. -/
theorem handleAll_pathKeys (store : Store) (d : Disk) (hp : e.prompt = some p) {t : Text}
    {events : List (Nat × Event)}
    (h : events.map Prod.snd = t.map fun c => .key (.char c) {}) :
    handleAll store events e d =
      some ({ e with prompt := some (t.foldl (fun p c => p.insert c) p) }, d) := by
  induction t generalizing events e p with
  | nil =>
    obtain rfl := List.map_eq_nil_iff.1 h
    rw [handleAll, List.foldl_nil, ← hp]
  | cons c t ih =>
    obtain ⟨⟨now, event⟩, later, rfl, hevent, hlater⟩ := List.map_eq_cons_iff.1 h
    obtain rfl : event = .key (.char c) {} := hevent
    have hhandle : e.handle store now (.key (.char c) {}) d =
        (.proceed, { e with prompt := some (p.insert c) }, d) := by
      simp only [handle, press, hp, pressInPrompt, promptKey]
      rfl
    rw [handleAll, hhandle]
    exact ih rfl hlater

/-! ## Pasting a text -/

theorem paste_of_prompt (hp : e.prompt = some p) (t : Text) :
    e.paste t = { e with prompt := some (p.paste t) } := by
  simp only [paste, hp]

theorem paste_of_input (hp : e.prompt = none) (hf : e.focus = .input) (t : Text) :
    e.paste t = { e with input := e.input.paste t, modified := true } := by
  simp only [paste, hp, hf]

theorem paste_of_output (hp : e.prompt = none) (hf : e.focus = .output) (t : Text) :
    e.paste t = e := by
  simp only [paste, hp, hf]

theorem paste_eq_typed (hp : e.prompt = none) {t : Text} (ht : t ≠ []) :
    e.paste t = e.typed (Text.unifyBreaks t) := by
  cases hf : e.focus with
  | input =>
    have hne : (Text.unifyBreaks t).isEmpty = false :=
      List.isEmpty_eq_false_iff.2 (mt Text.unifyBreaks_eq_nil_iff.1 ht)
    rw [paste_of_input hp hf, typed_of_input hf, hne, Bool.not_false, Bool.or_true,
      TextArea.paste]
  | output => rw [paste_of_output hp hf, typed_of_output hf]

/-- **A paste puts no carriage return into the input.** -/
theorem count_return_paste (t : Text) (e : Editor) :
    (e.paste t).input.text.count '\r' = e.input.text.count '\r' := by
  cases hp : e.prompt with
  | some p => rw [paste_of_prompt hp]
  | none =>
    cases hf : e.focus with
    | input =>
      obtain ⟨htext, -⟩ := TextArea.inserted_insertAll (Text.unifyBreaks t) e.input
      have hnone := List.count_eq_zero.2 (Text.return_notMem t)
      rw [paste_of_input hp hf, TextArea.paste, htext, List.count_append, List.count_append,
        hnone, Nat.add_zero, ← List.count_append, List.take_append_drop]
    | output => rw [paste_of_output hp hf]

/-! ## Pastes in two parts -/

/-- `e'` is `e`, but with one more line break in the input, right behind the text given,
    and the cursor one character later. -/
structure OneMoreBreak (behind : Text) (e e' : Editor) : Prop where
  text : ∃ later, e.input.text = behind ++ later ∧ e'.input.text = behind ++ '\n' :: later
  offset : e'.input.offset = e.input.offset + 1
  rest : { e' with input := e.input } = e

theorem paste_twice (hp : e.prompt = none) (hf : e.focus = .input) (a b : Text) :
    (e.paste a).paste b = { e with
      input := (e.input.paste a).paste b, modified := true } := by
  have hprompt : (e.paste a).prompt = none := by rw [paste_of_input hp hf]; exact hp
  have hfocus : (e.paste a).focus = .input := by rw [paste_of_input hp hf]; exact hf
  rw [paste_of_input hprompt hfocus, paste_of_input hp hf]

theorem paste_paste (hp : e.prompt = none) (hf : e.focus = .input) {a b : Text}
    (h : ¬ Text.Straddles a b) : (e.paste a).paste b = e.paste (a ++ b) := by
  rw [paste_twice hp hf, paste_of_input hp hf (a ++ b)]
  simp only [TextArea.paste, TextArea.insertAll, Text.unifyBreaks_append h, List.foldl_append]

theorem paste_straddling (hp : e.prompt = none) (hf : e.focus = .input) {a b : Text}
    (h : Text.Straddles a b) :
    OneMoreBreak (e.paste a).input.textBefore (e.paste (a ++ b)) ((e.paste a).paste b) := by
  obtain ⟨rest, hb, hwhole⟩ := Text.unifyBreaks_straddling h
  have hone : e.input.paste (a ++ b) = (e.input.paste a).insertAll rest := by
    rw [TextArea.paste, TextArea.paste, hwhole, TextArea.insertAll, List.foldl_append]
    rfl
  have htwo : (e.input.paste a).paste b = (e.input.paste a).insertAll ('\n' :: rest) := by
    rw [TextArea.paste, hb]
  rw [paste_twice hp hf, paste_of_input hp hf a, paste_of_input hp hf (a ++ b), hone, htwo]
  constructor
  · refine ⟨rest ++ (e.input.paste a).textAfter, ?_, ?_⟩
    · simp [TextArea.text_eq, TextArea.textBefore_insertAll, TextArea.textAfter_insertAll]
    · simp [TextArea.text_eq, TextArea.textBefore_insertAll, TextArea.textAfter_insertAll]
  · simp only [TextArea.offset_eq, TextArea.textBefore_insertAll, List.length_append,
      List.length_cons, Nat.add_assoc]
  · rfl

/-- **A paste is as if its text were typed**, one Enter for each line break and one key
    for each other character, at whatever times.  While a prompt is shown it is as if
    all but the line breaks were typed into the path, and it does nothing if the output
    has the focus.  No carriage return gets into the input, and a paste in two parts is
    one paste, but for a break that the parts share, which then is two. -/
theorem pasted_as_typed (store : Store) (e : Editor) (d : Disk) (t : Text) :
    (e.AtRest → t ≠ [] → ∀ events : List (Nat × Event),
      events.map Prod.snd = t.keys.map (fun key => .key key {}) →
        handleAll store events e d = some (e.paste t, d)) ∧
    (e.AtRest → e.focus = .output → e.paste t = e) ∧
    (∀ p, e.prompt = some p → ∀ events : List (Nat × Event),
      events.map Prod.snd = (Entry.pasted t).map (fun c => .key (.char c) {}) →
        handleAll store events e d = some (e.paste t, d)) ∧
    (e.paste t).input.text.count '\r' = e.input.text.count '\r' ∧
    (e.AtRest → e.focus = .input → ∀ later,
      (¬ Text.Straddles t later → (e.paste t).paste later = e.paste (t ++ later)) ∧
      (Text.Straddles t later → OneMoreBreak (e.paste t).input.textBefore
        (e.paste (t ++ later)) ((e.paste t).paste later))) := by
  refine ⟨fun hr ht events hevents => ?_, fun hr hf => paste_of_output hr.prompt hf t,
    fun p hp events hevents => ?_, count_return_paste t e, fun hr hf later => ?_⟩
  · rw [Text.keys_eq, List.map_map] at hevents
    rw [paste_eq_typed hr.prompt ht]
    exact handleAll_typing store d hr hevents
  · rw [paste_of_prompt hp]
    exact handleAll_pathKeys store d hp hevents
  · exact ⟨paste_paste hr.prompt hf, paste_straddling hr.prompt hf⟩

/-- Three lines with all kinds of breaks: the last one may be half of one. -/
def threeLines : Text := "a\r\nb\rc\r".toList

/-- A disk with no files. -/
def bareDisk : Disk := ⟨[], []⟩

theorem threeLines_typed :
    handleAll ⟨[]⟩ [(0, .key (.char 'a') {}), (0, .key .enter {}), (7, .key (.char 'b') {}),
        (8, .key .enter {}), (9, .key (.char 'c') {}), (9, .key .enter {})] (start []) bareDisk =
      some ((start []).paste threeLines, bareDisk) ∧
    ({ start [] with focus := .output } : Editor).paste threeLines =
      { start [] with focus := .output } ∧
    handleAll ⟨[]⟩ [(3, .key (.char 'a') {}), (4, .key (.char 'b') {}),
        (4, .key (.char 'c') {})] ((start []).ask .save) bareDisk =
      some (((start []).ask .save).paste threeLines, bareDisk) ∧
    ((start []).paste threeLines).paste ['d'] = (start []).paste "a\nb\nc\nd".toList ∧
    OneMoreBreak "a\nb\nc\n".toList ((start []).paste "a\nb\nc\nd".toList)
      (((start []).paste threeLines).paste "\nd".toList) := by
  have hr : (start []).AtRest := ⟨rfl, rfl⟩
  obtain ⟨htyped, -, -, -, hparts⟩ := pasted_as_typed ⟨[]⟩ (start []) bareDisk threeLines
  obtain ⟨-, houtput, -⟩ :=
    pasted_as_typed ⟨[]⟩ { start [] with focus := .output } bareDisk threeLines
  obtain ⟨-, -, hprompt, -⟩ :=
    pasted_as_typed ⟨[]⟩ ((start []).ask .save) bareDisk threeLines
  refine ⟨htyped hr (by decide) _ (by decide), houtput ⟨rfl, rfl⟩ rfl,
    hprompt _ rfl _ (by decide), ?_, ?_⟩
  · rw [(hparts hr rfl ['d']).1 (fun h => absurd h.starts (by decide))]
    decide
  · have htwice := (hparts hr rfl "\nd".toList).2 ⟨by decide, by decide⟩
    rwa [show ((start []).paste threeLines).input.textBefore = "a\nb\nc\n".toList by decide,
      show (start []).paste (threeLines ++ "\nd".toList) =
        (start []).paste "a\nb\nc\nd".toList by decide] at htwice

end Editor

end Runpad
