/-
  A prompt is a list of characters with an offset in it.

  * `Entry` is such a list, `Entry.edit` what an edit of a prompt does to it;
    `apply_prompt`: the prompt with an entry is edited likewise, and
    `foldlM_onLine`: its bytes are never cut at a wrong place meanwhile;
  * `Event.pathEdit?` is the edit that an event stands for; `prompt_play`: a session
    that does not end a prompt makes these edits, one after the other;
  * `Chosen` is what Enter makes of the characters: the path without the blanks around
    it, or nothing; `path_entered`: this is what is opened or saved.
-/
import Mathlib
import Runpad.Proofs.Editor.Play
import Runpad.Proofs.Editor.PromptLine
import Runpad.Proofs.Text.Trim

namespace Runpad

/-- A list of characters with an offset in it. -/
structure Entry where
  chars : Text
  offset : Nat
  within : offset ≤ chars.length

namespace Entry

/-- An entry that starts with some characters, the offset behind them. -/
def start (chars : Text) : Entry :=
  ⟨chars, chars.length, le_rfl⟩

/-- The characters of a paste that a path takes. -/
def pasted (t : Text) : Text :=
  t.filter fun c => c ≠ '\r' && c ≠ '\n'

theorem within_insert (x : Entry) (c : Char) :
    x.offset + 1 ≤ (x.chars.insertIdx x.offset c).length := by
  rw [List.length_insertIdx_of_le_length x.within]
  exact Nat.succ_le_succ x.within

theorem within_paste (x : Entry) (t : Text) :
    x.offset + t.length ≤ (x.chars.take x.offset ++ t ++ x.chars.drop x.offset).length := by
  have hwithin := x.within
  rw [List.length_append, List.length_append, List.length_take, Nat.min_eq_left hwithin]
  exact Nat.le_add_right _ _

theorem within_backspace (x : Entry) :
    x.offset - 1 ≤ (x.chars.eraseIdx (x.offset - 1)).length := by
  have hwithin := x.within
  rw [List.length_eraseIdx]
  split_ifs <;> omega

/-- What an edit does to an entry. -/
def edit (x : Entry) : Prompt.Edit → Entry
  | .insert c => ⟨x.chars.insertIdx x.offset c, x.offset + 1, x.within_insert c⟩
  | .paste t =>
    ⟨x.chars.take x.offset ++ pasted t ++ x.chars.drop x.offset,
      x.offset + (pasted t).length, x.within_paste (pasted t)⟩
  | .backspace =>
    if x.offset = 0 then x
    else ⟨x.chars.eraseIdx (x.offset - 1), x.offset - 1, x.within_backspace⟩
  | .moveLeft => ⟨x.chars, x.offset - 1, (Nat.sub_le _ _).trans x.within⟩
  | .moveRight => ⟨x.chars, min (x.offset + 1) x.chars.length, Nat.min_le_right _ _⟩
  | .toStart => ⟨x.chars, 0, Nat.zero_le _⟩
  | .toEnd => ⟨x.chars, x.chars.length, le_rfl⟩

/-- The prompt that shows an entry. -/
def prompt (purpose : Purpose) (x : Entry) : Prompt :=
  ⟨purpose, x.chars, x.offset⟩

end Entry

/-- The edit of a prompt that an event stands for. -/
def Event.pathEdit? : Event → Option Prompt.Edit
  | .key k m => Prompt.edit? m k
  | .paste t => some (.paste t)
  | .mouse _ _ | .resize _ _ => none

namespace Prompt

/-! ## Edits -/

/-- What is put in goes between what was before the cursor and what was after it. -/
theorem foldl_insert (purpose : Purpose) (kept s t : Text) :
    kept.foldl (fun p c => p.insert c) (⟨purpose, s ++ t, s.length⟩ : Prompt) =
      ⟨purpose, s ++ kept ++ t, s.length + kept.length⟩ := by
  induction kept generalizing s with
  | nil => simp
  | cons c kept ih =>
    have hinsert : Prompt.insert c ⟨purpose, s ++ t, s.length⟩ =
        ⟨purpose, (s ++ [c]) ++ t, (s ++ [c]).length⟩ := by
      simp [insert]
    rw [List.foldl_cons, hinsert, ih]
    simp [Nat.add_assoc, Nat.add_comm 1]

/-- **A prompt is edited as its entry is.** -/
theorem apply_prompt (purpose : Purpose) (x : Entry) (edit : Edit) :
    edit.apply (x.prompt purpose) = (x.edit edit).prompt purpose := by
  have hwithin : (x.prompt purpose).Within := x.within
  obtain ⟨s, t, hpath, hcursor⟩ := hwithin.cut
  change x.chars = s ++ t at hpath
  change x.offset = s.length at hcursor
  cases edit with
  | insert c =>
    simp [Edit.apply, insert, Entry.edit, Entry.prompt, hpath, hcursor, TextArea.insertIdx_middle]
  | paste text =>
    have hprompt : x.prompt purpose = ⟨purpose, s ++ t, s.length⟩ := by
      rw [Entry.prompt, hpath, hcursor]
    rw [Edit.apply, paste, hprompt, foldl_insert]
    simp [Entry.edit, Entry.prompt, Entry.pasted, hpath, hcursor]
  | backspace =>
    by_cases hzero : x.offset = 0
    · simp [Edit.apply, backspace, Entry.edit, Entry.prompt, hzero]
    · obtain ⟨n, hn⟩ := Nat.exists_eq_succ_of_ne_zero hzero
      simp [Edit.apply, backspace, Entry.edit, Entry.prompt, hn, List.eraseIdx_eq_take_drop_succ]
  | moveLeft | moveRight | toStart | toEnd => rfl

/-- The same for an edit that may be there. -/
theorem map_apply_prompt (purpose : Purpose) (x : Entry) (edit : Option Edit) :
    (edit.map (Edit.apply (x.prompt purpose))).getD (x.prompt purpose) =
      (edit.toList.foldl Entry.edit x).prompt purpose := by
  cases edit with
  | none => rfl
  | some edit => exact apply_prompt purpose x edit

/-- **No edit cuts the bytes of a path at a wrong place**, and they stay those of the
    characters. -/
theorem foldlM_onLine (purpose : Purpose) (x : Entry) (edits : List Edit) :
    edits.foldlM Edit.onLine (x.prompt purpose).line =
      some ((edits.foldl Entry.edit x).prompt purpose).line := by
  induction edits generalizing x with
  | nil => rfl
  | cons edit edits ih =>
    have hwithin : (x.prompt purpose).Within := x.within
    rw [List.foldlM_cons, onLine_line hwithin, apply_prompt, Option.bind_eq_bind,
      Option.bind_some, ih]
    rfl

/-! ## The path that is handed on -/

/-- What Enter makes of the characters of a prompt: the path without the blanks around
    it, or nothing if there are only blanks. -/
inductive Chosen (chars : Text) : Option Path → Prop
  | nothing : Text.Stripped chars [] → Chosen chars none
  | path {path : Path} : Text.Stripped chars path → path ≠ [] → Chosen chars (some path)

theorem chosen_path (p : Prompt) : Chosen p.path p.chosen := by
  cases hchosen : p.chosen with
  | none =>
    rw [chosen_eq_none_iff, Text.trim_eq_iff] at hchosen
    exact .nothing hchosen
  | some path =>
    rw [chosen_eq_some_iff, Text.trim_eq_iff] at hchosen
    exact .path hchosen.1 hchosen.2

end Prompt

/-! ## Events -/

namespace Editor

variable {e : Editor} {purpose : Purpose} {x : Entry}

/-- An event that does not end a prompt makes the edit that it stands for. -/
theorem handle_pathEdit (store : Store) (now : Nat) (d : Disk)
    (hp : e.prompt = some (x.prompt purpose)) {event : Event} (h : ¬ event.EndsPrompt) :
    e.handle store now event d =
      (.proceed,
        { e with
          prompt := some ((event.pathEdit?.toList.foldl Entry.edit x).prompt purpose) },
        d) := by
  have hsame : { e with prompt := some (x.prompt purpose) } = e := by rw [← hp]
  rw [← Prompt.map_apply_prompt]
  cases event with
  | key k m =>
    cases k with
    | enter => exact absurd (.enter m) h
    | escape => exact absurd (.escape m) h
    | _ => simp only [handle, press, hp, pressInPrompt, Prompt.promptKey_eq, Event.pathEdit?]
  | mouse action place => simp [handle, mouse, hp, Event.pathEdit?, hsame]
  | paste t => simp [handle, paste, hp, Event.pathEdit?, Prompt.Edit.apply]
  | resize width height => simp [handle, Event.pathEdit?, hsame]

end Editor

namespace Session

open Editor

variable {σ : Type} (remote : Remote σ) (store : Store) {s : Session σ} {purpose : Purpose}

/-- The edits that several moments ask of a prompt. -/
def pathEdits (moments : List Moment) : List Prompt.Edit :=
  moments.flatMap (·.event.pathEdit?.toList)

/-- **Many events make their edits, one after the other.** -/
theorem prompt_play {x : Entry} (hp : s.editor.prompt = some (x.prompt purpose))
    {moments : List Moment} (hm : ∀ m ∈ moments, ¬ m.event.EndsPrompt) :
    ∃ s', s.play remote store moments = some s' ∧
      s'.editor.prompt = some (((pathEdits moments).foldl Entry.edit x).prompt purpose) := by
  induction moments generalizing s x with
  | nil => exact ⟨s, rfl, hp⟩
  | cons m later ih =>
    rw [List.forall_mem_cons] at hm
    have hfound : (s.foundAt m).editor.prompt = some (x.prompt purpose) := hp
    have hhandle := handle_pathEdit store m.now (s.foundAt m).disk hfound hm.1
    have hnext : (s.stepAt remote store m).next = some _ :=
      congrArg Step.next (step_proceed hhandle)
    rw [play, hnext, Option.bind_some, pathEdits, List.flatMap_cons, List.foldl_append]
    exact ih rfl hm.2

/-- **A prompt is a line editor for a path.**  It starts with some characters and the
    offset behind them.  Whatever happens then, no Enter and no Escape among it, it
    holds the characters and the offset that the edits make of them, and its bytes are
    never cut at a wrong place.  Then Enter hands on the path without the blanks around
    it, or cancels if nothing is left. -/
theorem path_entered {initial : Text}
    (hp : s.editor.prompt = some (.start purpose initial)) {moments : List Moment}
    (hm : ∀ m ∈ moments, ¬ m.event.EndsPrompt) :
    ∃ s' x, x = (pathEdits moments).foldl Entry.edit (.start initial) ∧
      s.play remote store moments = some s' ∧
      s'.editor.prompt = some ⟨purpose, x.chars, x.offset⟩ ∧
      (pathEdits moments).foldlM Prompt.Edit.onLine (Prompt.start purpose initial).line =
        some ⟨Utf8.encode x.chars, x.offset⟩ ∧
      ∃ choice, Prompt.Chosen x.chars choice ∧ ∀ now m d,
        s'.editor.handle store now (.key .enter m) d =
          (.proceed, { s'.editor with prompt := none }.finishPrompt store purpose choice d) := by
  have hstart : s.editor.prompt = some ((Entry.start initial).prompt purpose) := hp
  obtain ⟨s', hplay, hp'⟩ := prompt_play remote store hstart hm
  have hbytes := Prompt.foldlM_onLine purpose (.start initial) (pathEdits moments)
  refine ⟨s', _, rfl, hplay, hp', hbytes, _, Prompt.chosen_path (Entry.prompt purpose _),
    fun now m d => ?_⟩
  exact handle_enter store now d hp' m

/-- A session that asks where to save, with a blank to start from. -/
def askingToSave : Session Unit :=
  { fresh with editor := { fresh.editor with path := some [' '] }.ask .save }

/-- A letter of two bytes and one before it that is taken out again, a paste with a line
    break in it, what a prompt ignores, and a blank at the end. -/
def typedPath : List Moment :=
  [⟨0, .key (.char 'é') {}, id⟩, ⟨1, .key .left {}, id⟩,
    ⟨2, .key (.char '/') { shift := true }, id⟩, ⟨3, .key .backspace {}, id⟩,
    ⟨4, .paste "d\r\n/".toList, id⟩, ⟨5, .key (.char 'q') { control := true }, id⟩,
    ⟨6, .resize 3 2, id⟩, ⟨7, .key .endKey {}, id⟩, ⟨8, .key (.char ' ') {}, id⟩]

theorem typedPath_entered :
    askingToSave.editor.prompt = some (.start .save [' ']) ∧
    (∀ m ∈ typedPath, ¬ m.event.EndsPrompt) ∧
    ∃ s', askingToSave.play absent ⟨['t']⟩ typedPath = some s' ∧
      s'.editor.prompt = some ⟨.save, " d/é ".toList, 5⟩ ∧
      ∀ now m d, s'.editor.handle ⟨['t']⟩ now (.key .enter m) d =
        (.proceed,
          { s'.editor with prompt := none }.finishPrompt ⟨['t']⟩ .save (some "d/é".toList) d) := by
  have hends : ∀ m ∈ typedPath, ¬ m.event.EndsPrompt := by
    simp only [typedPath, List.forall_mem_cons]
    refine ⟨?_, ?_, ?_, ?_, ?_, ?_, ?_, ?_, ?_, by simp⟩ <;> rintro ⟨⟩
  have hp : askingToSave.editor.prompt = some (.start .save [' ']) := rfl
  obtain ⟨s', x, hx, hplay, hprompt, -, choice, hchoice, henter⟩ :=
    path_entered absent ⟨['t']⟩ hp hends
  have hchars : x.chars = " d/é ".toList := by rw [hx]; decide
  have hoffset : x.offset = 5 := by rw [hx]; decide
  rw [hchars, hoffset] at hprompt
  rw [hchars] at hchoice
  refine ⟨hp, hends, s', hplay, hprompt, ?_⟩
  cases hchoice with
  | nothing h => exact absurd (Text.trim_eq_iff.2 h) (by decide)
  | path h hne =>
    obtain rfl := (Text.trim_eq_iff.2 h).symm
    exact henter

end Session

end Runpad
