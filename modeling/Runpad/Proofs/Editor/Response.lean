/-
  What an event does to the editor.

  * `AtRest` says that nothing is in front of the regions, and `Orders` which
    events give a command then;
  * `Response` lists what can come of an event, each case with all that it takes;
    `handle_response`: nothing else comes of one;
  * `handle_order`, `handle_typed`, `handle_cancel` and `handle_enter` go the
    other way: what does come of an order, and of an event while a prompt is
    shown.
-/
import Mathlib
import Runpad.Editor.Event

namespace Runpad

/-! ## Events -/

/-- The event ends a prompt. -/
inductive Event.EndsPrompt : Event → Prop
  | enter (m : Modifiers) : EndsPrompt (.key .enter m)
  | escape (m : Modifiers) : EndsPrompt (.key .escape m)

/-- The event is a key or a click. -/
inductive Event.Dismisses : Event → Prop
  | key (k : Key) (m : Modifiers) : Dismisses (.key k m)
  | click (p : Place) : Dismisses (.mouse (.press .left) p)

/-- The keys that edit a text; a character does only without Control and Alt. -/
inductive Key.Edits : Key → Modifiers → Prop
  | enter (m : Modifiers) : Edits .enter m
  | backspace (m : Modifiers) : Edits .backspace m
  | delete (m : Modifiers) : Edits .delete m
  | tab (m : Modifiers) : Edits .tab m
  | char (c : Char) {m : Modifiers} : m.control = false → m.alt = false → Edits (.char c) m

/-- The command that asks for a path. -/
def Purpose.command : Purpose → Command
  | .open => .open
  | .save => .save

/-- What the status bar says when a prompt was cancelled. -/
def Purpose.cancelled : Purpose → Text
  | .open => "Open cancelled".toList
  | .save => "Save cancelled".toList

/-- The event cancels the prompt: Escape, or Enter when there are only blanks. -/
inductive Prompt.CancelledBy (p : Prompt) : Event → Prop
  | escape (m : Modifiers) : CancelledBy p (.key .escape m)
  | blank (m : Modifiers) : Text.trim p.path = [] → CancelledBy p (.key .enter m)

theorem Prompt.chosen_eq_none_iff {p : Prompt} : p.chosen = none ↔ Text.trim p.path = [] := by
  unfold Prompt.chosen
  split <;> simp_all

theorem Prompt.chosen_eq_some_iff {p : Prompt} {path : Path} :
    p.chosen = some path ↔ Text.trim p.path = path ∧ path ≠ [] := by
  unfold Prompt.chosen
  split
  · next h => simp_all
  · next h =>
    constructor
    · rintro ⟨⟩
      exact ⟨rfl, h⟩
    · rintro ⟨rfl, -⟩
      rfl

namespace Editor

/-- Nothing is in front of the regions. -/
structure AtRest (e : Editor) : Prop where
  prompt : e.prompt = none
  help : e.help = false

/-- The event gives a command, if nothing is in front of the regions. -/
inductive Orders (e : Editor) : Event → Command → Prop
  | runKey {m : Modifiers} : m.control = true → Orders e (.key (.char 'r') m) .run
  | functionKey (m : Modifiers) : Orders e (.key (.function 5) m) .run
  | saveKey {m : Modifiers} : m.control = true → Orders e (.key (.char 's') m) .save
  | openKey {m : Modifiers} : m.control = true → Orders e (.key (.char 'o') m) .open
  | button {p : Place} {command : Command} : e.buttonAt p = some command →
      Orders e (.mouse (.press .left) p) command

/-- What can come of an event at the time `now`: what has to follow, the editor
    and the disk. -/
inductive Response (store : Store) (now : Nat) (e : Editor) (d : Disk) :
    Event → Flow → Editor → Disk → Prop
  /-- The prompt takes the event. -/
  | typed {event p p'} : e.prompt = some p → ¬ event.EndsPrompt → p'.purpose = p.purpose →
      Response store now e d event .proceed { e with prompt := some p' } d
  | cancelled {event p} : e.prompt = some p → p.CancelledBy event →
      Response store now e d event .proceed
        ({ e with prompt := none }.info p.purpose.cancelled) d
  | opened {m p path text} : e.prompt = some p → p.purpose = .open → p.chosen = some path →
      Store.open path d = .ok text →
      Response store now e d (.key .enter m) .proceed
        ({ e with prompt := none }.loadText path text) d
  | notOpened {m p path fault} : e.prompt = some p → p.purpose = .open → p.chosen = some path →
      Store.open path d = .error fault →
      Response store now e d (.key .enter m) .proceed
        ({ e with prompt := none }.error fault.message) d
  | saved {m p path target d'} : e.prompt = some p → p.purpose = .save → p.chosen = some path →
      store.save path e.input.text d = .ok (target, d') →
      Response store now e d (.key .enter m) .proceed
        ({ e with prompt := none }.markSaved target) d'
  | notSaved {m p path fault} : e.prompt = some p → p.purpose = .save → p.chosen = some path →
      store.save path e.input.text d = .error fault →
      Response store now e d (.key .enter m) .proceed
        ({ e with prompt := none }.error fault.message) d
  /-- The page of help goes away. -/
  | dismissed {event} : e.prompt = none → e.help = true → event.Dismisses →
      Response store now e d event .proceed { e with help := false } d
  | explained {m} : e.AtRest →
      Response store now e d (.key (.function 1) m) .proceed { e with help := true } d
  | ignored {event} : e.prompt = none → Response store now e d event .proceed e d
  /-- The focus and the cursor may move. -/
  | moved {event focus move} : e.prompt = none → (∀ a : TextArea, (move a).lines = a.lines) →
      Response store now e d event .proceed ({ e with focus }.mapFocused move) d
  | edited {key m edit} : e.AtRest → e.focus = .input → edit? m key = some edit →
      (∀ command, ¬ e.Orders (.key key m) command) →
      Response store now e d (.key key m) .proceed
        { e with input := edit e.input, modified := true } d
  | pasted {t} : e.prompt = none → e.focus = .input →
      Response store now e d (.paste t) .proceed
        { e with input := e.input.paste t, modified := true } d
  | interrupted {m} : e.AtRest → m.control = true →
      (∀ last, e.interruptedAt = some last → interruptWindow < now - last) →
      Response store now e d (.key (.char 'c') m) .proceed
        ({ e with interruptedAt := some now }.info "Press Ctrl+C again to quit".toList) d
  | interruptedAgain {m last} : e.AtRest → m.control = true → e.interruptedAt = some last →
      now - last ≤ interruptWindow →
      Response store now e d (.key (.char 'c') m) .quit { e with interruptedAt := none } d
  | left {m} : e.AtRest → m.control = true → Response store now e d (.key (.char 'q') m) .quit e d
  | ordered {event command} : e.AtRest → e.Orders event command →
      Response store now e d event (.execute command) e d

/-! ## Keys -/

theorem command?_cases {key : Key} {m : Modifiers} {flow : Flow} (h : command? key m = some flow)
    (e : Editor) :
    (key = .char 'q' ∧ m.control = true ∧ flow = .quit) ∨
      ∃ command, flow = .execute command ∧ e.Orders (.key key m) command := by
  unfold command? at h
  split at h
  · next =>
    obtain ⟨hm, hf⟩ := Option.ite_none_right_eq_some.1 h
    exact Or.inl ⟨rfl, hm, (Option.some.inj hf).symm⟩
  · next =>
    obtain ⟨hm, hf⟩ := Option.ite_none_right_eq_some.1 h
    exact Or.inr ⟨.run, (Option.some.inj hf).symm, .runKey hm⟩
  · next =>
    obtain ⟨hm, hf⟩ := Option.ite_none_right_eq_some.1 h
    exact Or.inr ⟨.save, (Option.some.inj hf).symm, .saveKey hm⟩
  · next =>
    obtain ⟨hm, hf⟩ := Option.ite_none_right_eq_some.1 h
    exact Or.inr ⟨.open, (Option.some.inj hf).symm, .openKey hm⟩
  · exact Or.inr ⟨.run, (Option.some.inj h).symm, .functionKey m⟩
  · cases h

theorem command?_of_orders {e : Editor} {key : Key} {m : Modifiers} {command : Command}
    (h : e.Orders (.key key m) command) : command? key m = some (.execute command) := by
  cases h with
  | runKey hm | saveKey hm | openKey hm => simp [command?, hm]
  | functionKey => rfl

theorem edits_of_edit? {key : Key} {m : Modifiers} {edit : TextArea → TextArea}
    (h : edit? m key = some edit) : key.Edits m := by
  cases key with
  | enter => exact .enter m
  | backspace => exact .backspace m
  | delete => exact .delete m
  | tab => exact .tab m
  | char c =>
    obtain ⟨hm, -⟩ := Option.ite_none_left_eq_some.1 h
    rw [Bool.or_eq_true, not_or, Bool.not_eq_true, Bool.not_eq_true] at hm
    exact .char c hm.1 hm.2
  | _ => cases h

theorem lines_move? {rows : Nat} {key : Key} {move : TextArea → TextArea}
    (h : move? rows key = some move) (a : TextArea) : (move a).lines = a.lines := by
  cases key with
  | left => cases h; exact TextArea.lines_moveLeft a
  | right => cases h; exact TextArea.lines_moveRight a
  | home => cases h; exact TextArea.lines_toLineStart a
  | endKey => cases h; exact TextArea.lines_toLineEnd a
  | up | down | pageUp | pageDown => cases h; exact TextArea.lines_toRow _ a
  | _ => cases h

theorem mapFocused_id (e : Editor) : e.mapFocused id = e := by
  unfold mapFocused
  split <;> rfl

/-! ## While a prompt is shown -/

theorem purpose_promptKey (key : Key) (m : Modifiers) (p : Prompt) :
    (promptKey key m p).purpose = p.purpose := by
  cases key with
  | backspace => simp only [promptKey, Prompt.backspace]; split <;> rfl
  | char c => simp only [promptKey]; split <;> rfl
  | _ => rfl

theorem purpose_paste (t : Text) (p : Prompt) : (p.paste t).purpose = p.purpose := by
  unfold Prompt.paste
  generalize t.filter _ = kept
  induction kept generalizing p with
  | nil => rfl
  | cons c kept ih => exact ih (p.insert c)

variable (store : Store) (now : Nat) {e : Editor} {p : Prompt} (d : Disk)

/-- An event that does not end the prompt at most edits the path. -/
theorem handle_typed (hp : e.prompt = some p) {event : Event} (h : ¬ event.EndsPrompt) :
    ∃ p' : Prompt, p'.purpose = p.purpose ∧
      e.handle store now event d = (.proceed, { e with prompt := some p' }, d) := by
  have hsame : { e with prompt := some p } = e := by rw [← hp]
  cases event with
  | key key m =>
    refine ⟨promptKey key m p, purpose_promptKey key m p, ?_⟩
    cases key with
    | enter => exact absurd (.enter m) h
    | escape => exact absurd (.escape m) h
    | _ => simp only [handle, press, hp, pressInPrompt]
  | mouse action place => exact ⟨p, rfl, by simp [handle, mouse, hp, hsame]⟩
  | paste t => exact ⟨p.paste t, purpose_paste t p, by simp [handle, paste, hp]⟩
  | resize width height => exact ⟨p, rfl, by simp [handle, hsame]⟩

/-- Enter does what the prompt asks for. -/
theorem handle_enter (hp : e.prompt = some p) (m : Modifiers) :
    e.handle store now (.key .enter m) d =
      (.proceed, { e with prompt := none }.finishPrompt store p.purpose p.chosen d) := by
  simp only [handle, press, hp, pressInPrompt]

theorem finishPrompt_none (purpose : Purpose) :
    e.finishPrompt store purpose none d = (e.info purpose.cancelled, d) := by
  cases purpose <;> rfl

theorem handle_cancel (hp : e.prompt = some p) {event : Event} (h : p.CancelledBy event) :
    e.handle store now event d =
      (.proceed, { e with prompt := none }.info p.purpose.cancelled, d) := by
  cases h with
  | escape m =>
    simp only [handle, press, hp, pressInPrompt, finishPrompt_none]
  | blank m hblank =>
    rw [handle_enter store now d hp, Prompt.chosen_eq_none_iff.2 hblank, finishPrompt_none]

/-! ## While nothing is in front of the regions -/

/-- An order leads to its command, and changes nothing. -/
theorem handle_order (hr : e.AtRest) {event : Event} {command : Command}
    (h : e.Orders event command) : e.handle store now event d = (.execute command, e, d) := by
  cases event with
  | key key m =>
    simp only [handle, press, hr.prompt, hr.help, pressInRegion, command?_of_orders h]
    rfl
  | mouse action place =>
    cases h with
    | button hb => simp [handle, mouse, click, hr.prompt, hr.help, hb]
  | paste | resize => cases h

/-! ## All events -/

theorem enter_response (hp : e.prompt = some p) (m : Modifiers) :
    Response store now e d (.key .enter m) .proceed
      ({ e with prompt := none }.finishPrompt store p.purpose p.chosen d).1
      ({ e with prompt := none }.finishPrompt store p.purpose p.chosen d).2 := by
  cases hc : p.chosen with
  | none =>
    rw [finishPrompt_none]
    exact .cancelled hp (.blank m (Prompt.chosen_eq_none_iff.1 hc))
  | some path =>
    cases hu : p.purpose with
    | «open» =>
      simp only [finishPrompt, openFile]
      cases ho : Store.open path d with
      | ok text => exact .opened hp hu hc ho
      | error fault => exact .notOpened hp hu hc ho
    | save =>
      simp only [finishPrompt, saveFile]
      cases hs : store.save path e.input.text d with
      | ok saved => exact .saved hp hu hc hs
      | error fault => exact .notSaved hp hu hc hs

theorem interrupt_response (hr : e.AtRest) {m : Modifiers} (hm : m.control = true) :
    Response store now e d (.key (.char 'c') m)
      (if (e.interrupt now).1 then .quit else .proceed) (e.interrupt now).2 d := by
  unfold interrupt
  split
  · next last h =>
    rw [Option.filter_eq_some_iff] at h
    exact .interruptedAgain hr hm h.1 (by simpa using h.2)
  · next h =>
    refine .interrupted hr hm fun last hl => ?_
    rw [Option.filter_eq_none_iff] at h
    have := h last hl
    rw [decide_eq_true_eq] at this
    omega

theorem region_response (hr : e.AtRest) (key : Key) (m : Modifiers) :
    Response store now e d (.key key m) (e.pressInRegion now key m).1
      (e.pressInRegion now key m).2 d := by
  unfold pressInRegion
  split
  · next flow hc =>
    rcases command?_cases hc e with ⟨rfl, hm, rfl⟩ | ⟨command, rfl, ho⟩
    · exact .left hr hm
    · exact .ordered hr ho
  · next hc =>
    have hno : ∀ command, ¬ e.Orders (.key key m) command := fun command ho => by
      rw [command?_of_orders ho] at hc
      cases hc
    split_ifs with hi hf ht
    · obtain ⟨rfl, hm⟩ := hi
      exact interrupt_response store now d hr hm
    · rw [hf, toggleHelp, hr.help]
      exact .explained hr
    · have : Response store now e d (.key key m) .proceed
          ({ e with focus := e.toggleFocus.focus }.mapFocused id) d := .moved hr.prompt fun _ => rfl
      rwa [mapFocused_id] at this
    · unfold moveOrEdit
      split
      · next move hmove => exact .moved hr.prompt (lines_move? hmove)
      · split
        · next edit hfocus hedit => exact .edited hr hfocus hedit hno
        · exact .ignored hr.prompt

theorem scrollAt_response (hp : e.prompt = none) (event : Event) (place : Place)
    {move : TextArea → TextArea} (h : ∀ a, (move a).lines = a.lines) :
    Response store now e d event .proceed (e.scrollAt place move) d := by
  unfold scrollAt
  split
  · exact .moved hp h
  · exact .ignored hp

theorem mouse_response (hp : e.prompt = none) (action : MouseAction) (place : Place) :
    Response store now e d (.mouse action place) (e.mouse action place).1
      (e.mouse action place).2 d := by
  simp only [mouse, hp, Option.isSome_none, Bool.false_eq_true, if_false]
  split
  · unfold click
    split_ifs with hh
    · rw [toggleHelp, hh]
      exact .dismissed hp hh (.click place)
    · split
      · next command hb => exact .ordered ⟨hp, by simpa using hh⟩ (.button hb)
      · exact scrollAt_response store now d hp _ place fun _ => rfl
  · exact scrollAt_response store now d hp _ place fun a => TextArea.lines_toRow _ a
  · exact scrollAt_response store now d hp _ place fun a => TextArea.lines_toRow _ a
  · exact .ignored hp

theorem paste_response (hp : e.prompt = none) (t : Text) :
    Response store now e d (.paste t) .proceed (e.paste t) d := by
  unfold paste
  split
  · next h =>
    rw [hp] at h
    cases h
  · next hf => exact .pasted hp hf
  · exact .ignored hp

/-- **Nothing else comes of an event.** -/
theorem handle_response (event : Event) :
    Response store now e d event (e.handle store now event d).1
      (e.handle store now event d).2.1 (e.handle store now event d).2.2 := by
  cases hp : e.prompt with
  | some p =>
    by_cases h : event.EndsPrompt
    · cases h with
      | enter m =>
        rw [handle_enter store now d hp]
        exact enter_response store now d hp m
      | escape m =>
        rw [handle_cancel store now d hp (.escape m)]
        exact .cancelled hp (.escape m)
    · obtain ⟨p', hu, hh⟩ := handle_typed store now d hp h
      rw [hh]
      exact .typed hp h hu
  | none =>
    cases event with
    | key key m =>
      simp only [handle, press, hp]
      split_ifs with hh
      · rw [toggleHelp, hh]
        exact .dismissed hp hh (.key key m)
      · exact region_response store now d ⟨hp, by simpa using hh⟩ key m
    | mouse action place => exact mouse_response store now d hp action place
    | paste t => exact paste_response store now d hp t
    | resize width height => exact .ignored hp

end Editor

end Runpad
