/-
  The page of help in front of the regions.

  * `Event.PastesInto` is a paste that the input would take;
  * `handle_dismissed`: a key or a click closes the page, `handle_pasted`: a paste
    goes into the input behind it, and `Response.behind`: any other event leaves
    the input behind it;
  * `HelpAfter` is what an event leaves of the editor while the page is shown;
    `handle_help` shows it, and that nothing has to follow the event;
  * `help_takes_all_but_pastes`: so it is in every session.
-/
import Mathlib
import Runpad.Proofs.Editor.Cancel
import Runpad.Proofs.Editor.Modes
import Runpad.Proofs.Editor.Unsaved

namespace Runpad

/-- The event is a paste, and the input has the focus. -/
def Event.PastesInto (event : Event) (e : Editor) : Prop :=
  (∃ t, event = .paste t) ∧ e.focus = .input

namespace Editor

variable {store : Store} {now : Nat} {e e' : Editor} {d d' : Disk} {event : Event} {flow : Flow}

/-! ## What an event does behind the page -/

/-- A key or a click closes the page, and nothing else. -/
theorem handle_dismissed (hp : e.prompt = none) (hh : e.help = true) (h : event.Dismisses)
    (store : Store) (now : Nat) (d : Disk) :
    e.handle store now event d = (.proceed, { e with help := false }, d) := by
  cases h with
  | key k m => simp [handle, press, hp, hh, toggleHelp]
  | click p => simp [handle, mouse, click, hp, hh, toggleHelp]

/-- The page does not keep a paste from the input. -/
theorem handle_pasted (hp : e.prompt = none) (hf : e.focus = .input) (t : Text) (store : Store)
    (now : Nat) (d : Disk) :
    e.handle store now (.paste t) d =
      (.proceed, { e with input := e.input.paste t, modified := true }, d) := by
  simp [handle, paste, hp, hf]

/-- Any other event leaves the page, the input and the disk. -/
theorem Response.behind (h : Response store now e d event flow e' d') (hp : e.prompt = none)
    (hh : e.help = true) (hd : ¬ event.Dismisses) (hno : ¬ event.PastesInto e) :
    flow = .proceed ∧ d' = d ∧ e'.prompt = none ∧ e'.help = true ∧
      e'.input.text = e.input.text ∧ e'.modified = e.modified := by
  cases h with
  | typed hsome | cancelled hsome | opened hsome | notOpened hsome | saved hsome | notSaved hsome =>
    rw [hp] at hsome
    cases hsome
  | explained hr | edited hr | interrupted hr | interruptedAgain hr | left hr | ordered hr =>
    rw [hr.help] at hh
    cases hh
  | dismissed _ _ hdismisses => exact absurd hdismisses hd
  | pasted _ hf => exact absurd ⟨⟨_, rfl⟩, hf⟩ hno
  | ignored => exact ⟨rfl, rfl, hp, hh, rfl, rfl⟩
  | @moved _ focus move _ hmove =>
    obtain ⟨-, -, hprompt, hhelp⟩ := mode_mapFocused move { e with focus }
    exact ⟨rfl, rfl, hprompt.trans hp, hhelp.trans hh, input_text_moved hmove focus e,
      modified_mapFocused move { e with focus }⟩

/-- What an event leaves of the editor `e` while the page of help is shown. -/
structure HelpAfter (event : Event) (e e' : Editor) : Prop where
  prompt : e'.prompt = none
  output : e'.output.text = e.output.text
  dismissed : event.Dismisses → e'.undrawn = { e with help := false }.undrawn
  stays : ¬ event.Dismisses → e'.help = true
  pasted : ∀ t, event = .paste t → e.focus = .input →
    e'.undrawn = { e with input := e.input.paste t, modified := true }.undrawn
  kept : ¬ event.PastesInto e → e'.input.text = e.input.text ∧ e'.modified = e.modified

/-- While the page is shown, nothing has to follow an event. -/
theorem handle_help (hp : e.prompt = none) (hh : e.help = true) (event : Event) (store : Store)
    (now : Nat) (d : Disk) :
    ∃ e', e.handle store now event d = (.proceed, e', d) ∧ HelpAfter event e e' := by
  by_cases hd : event.Dismisses
  · refine ⟨_, handle_dismissed hp hh hd store now d, hp, rfl, fun _ => rfl,
      fun h => absurd hd h, ?_, fun _ => ⟨rfl, rfl⟩⟩
    rintro t rfl
    cases hd
  by_cases hpaste : event.PastesInto e
  · obtain ⟨⟨t, rfl⟩, hf⟩ := hpaste
    refine ⟨_, handle_pasted hp hf t store now d, hp, rfl, fun h => absurd h hd, fun _ => hh, ?_,
      fun h => absurd ⟨⟨t, rfl⟩, hf⟩ h⟩
    rintro _ ⟨⟩ -
    rfl
  have hresponse := handle_response store now d event (e := e)
  rcases hx : e.handle store now event d with ⟨flow, e', d'⟩
  rw [hx] at hresponse
  obtain ⟨rfl, rfl, hprompt, hhelp, hkept⟩ := hresponse.behind hp hh hd hpaste
  exact ⟨e', rfl, hprompt, hresponse.output_text, fun h => absurd h hd, fun _ => hhelp,
    fun t ht hf => absurd ⟨⟨t, ht⟩, hf⟩ hpaste, fun _ => hkept⟩

/-- A draw changes none of it. -/
theorem HelpAfter.drawn (h : HelpAfter event e e') (width height : Nat) :
    HelpAfter event e (e'.drawn width height) :=
  ⟨h.prompt, h.output, h.dismissed, h.stays, h.pasted, h.kept⟩

end Editor

namespace Session

open Editor

variable {σ : Type} {s : Session σ}

/-! ## In a session -/

/-- **The page of help takes every event but a paste.**  While it is shown in a
    session, no event ends the editor, runs something, brings up a prompt, or
    changes a file or the output.  A key or a click closes it and does nothing
    else; any other event leaves it.  The input and its mark stay too, unless a
    text is pasted while the input has the focus: then it goes into the input. -/
theorem help_takes_all_but_pastes (remote : Remote σ) (store : Store) (r : σ) (d : Disk)
    (file : Option Path) (width height : Nat) {moments : List Moment}
    (hplay : (Session.start remote r d file width height).play remote store moments = some s)
    (hh : s.editor.help = true) (m : Moment) :
    ∃ s', QuietTo remote store m.now m.event (s.foundAt m) s' ∧
      HelpAfter m.event s.editor s'.editor := by
  have hhead := atHead_play (atHead_start remote r d file width height) hplay
  have hp : s.editor.prompt = none := by
    rcases hhead.oneInFront with hp | hno
    · exact hp
    · rw [hh] at hno
      cases hno
  obtain ⟨e', hx, hafter⟩ := handle_help hp hh m.event store m.now (m.others s.disk)
  have hfound : (s.foundAt m).editor.handle store m.now m.event (s.foundAt m).disk =
      (.proceed, e', (s.foundAt m).disk) := hx
  exact ⟨_, quiet_proceed hfound, hafter.drawn _ _⟩

/-- The page of help is asked for. -/
def helpKey : Moment :=
  ⟨0, .key (.function 1) {}, id⟩

/-- The key that runs the input only closes the page. -/
theorem runKey_behind_help :
    ∃ s s', fresh.play absent ⟨['t']⟩ [helpKey] = some s ∧ s.editor.help = true ∧
      QuietTo absent ⟨['t']⟩ 1 (.key (.function 5) {}) s s' ∧
      s'.editor.undrawn = { s.editor with help := false }.undrawn := by
  have hshown : (fresh.play absent ⟨['t']⟩ [helpKey]).map (·.editor.help) = some true := by decide
  obtain ⟨s, hplay, hh⟩ := Option.map_eq_some_iff.1 hshown
  obtain ⟨s', hquiet, hafter⟩ := help_takes_all_but_pastes absent ⟨['t']⟩ () ⟨[], []⟩ none 60 12
    hplay hh ⟨1, .key (.function 5) {}, id⟩
  exact ⟨s, s', hplay, hh, hquiet, hafter.dismissed (.key _ _)⟩

/-- A text that is pasted behind the page changes the input. -/
theorem paste_behind_help :
    ¬ ∀ (moments : List Moment) (s s' : Session Unit) (m : Moment),
      fresh.play absent ⟨['t']⟩ moments = some s → s.editor.help = true →
        (s.stepAt absent ⟨['t']⟩ m).next = some s' →
          s'.editor.input.text = s.editor.input.text ∧ s'.editor.modified = s.editor.modified := by
  intro h
  have hbefore : (fresh.play absent ⟨['t']⟩ [helpKey]).map (fun s =>
      (s.editor.help, s.editor.input.text, s.editor.modified,
        (s.stepAt absent ⟨['t']⟩ ⟨1, .paste ['x'], id⟩).next.map fun s' =>
          (s'.editor.input.text, s'.editor.modified))) =
      some (true, [], false, some (['x'], true)) := by
    decide
  obtain ⟨s, hplay, hs⟩ := Option.map_eq_some_iff.1 hbefore
  simp only [Prod.mk.injEq] at hs
  obtain ⟨hh, htext, -, hnext⟩ := hs
  obtain ⟨s', hstep, hs'⟩ := Option.map_eq_some_iff.1 hnext
  have hkept := (h _ s s' _ hplay hh hstep).1
  rw [htext, (Prod.mk.inj hs').1] at hkept
  cases hkept

end Session

end Runpad
