/-
  A cancelled prompt leaves no trace.

  * `Editor.undrawn` is the editor without what a draw computes anew;
  * `Quiet` events end nothing, run nothing and write nothing;
  * `Asking` says that a session is as it was, but for a prompt in front;
    `ask_step` brings it about, `asking_step` and `asking_play` keep it, and
    `cancel_step` ends it;
  * `cancelled_prompt`: from the order to the end, nothing else happens.
-/
import Mathlib
import Runpad.Proofs.Editor.Play

namespace Runpad

/-- The area with its window at the start. -/
def TextArea.unscrolled (a : TextArea) : TextArea :=
  { a with firstRow := 0, firstColumn := 0 }

/-- The editor without what a draw computes: where the parts are, and the windows
    onto the two texts. -/
def Editor.undrawn (e : Editor) : Editor :=
  { e with regions := {}, input := e.input.unscrolled, output := e.output.unscrolled }

namespace Editor

/-- A draw changes nothing else. -/
@[simp] theorem undrawn_drawn (width height : Nat) (e : Editor) :
    (e.drawn width height).undrawn = e.undrawn := rfl

theorem prompt_of_undrawn {e e' : Editor} (h : e.undrawn = e'.undrawn) : e.prompt = e'.prompt := by
  have : e.undrawn.prompt = e'.undrawn.prompt := by rw [h]
  exact this

/-- A prompt comes and goes without regard to what a draw computes. -/
theorem undrawn_withPrompt {e e' : Editor} (h : e.undrawn = e'.undrawn) (prompt : Option Prompt) :
    { e with prompt }.undrawn = { e' with prompt }.undrawn := by
  have : { e.undrawn with prompt } = { e'.undrawn with prompt } := by rw [h]
  exact this

theorem undrawn_info {e e' : Editor} (h : e.undrawn = e'.undrawn) (t : Text) :
    (e.info t).undrawn = (e'.info t).undrawn := by
  have : e.undrawn.info t = e'.undrawn.info t := by rw [h]
  exact this

end Editor

namespace Session

open Editor

variable {σ : Type} (remote : Remote σ) (store : Store) {s : Session σ} {e₀ : Editor}
  {purpose : Purpose}

/-! ## Quiet events -/

/-- The event ends nothing, runs nothing and writes nothing, and leads to `s'`. -/
structure QuietTo (now : Nat) (event : Event) (s s' : Session σ) : Prop where
  step : s.step remote store now event = { during := none, next := some s' }
  remote : s'.remote = s.remote
  disk : s'.disk = s.disk

variable {remote} {store} in
/-- An event that nothing has to follow, and that leaves the disk as it is. -/
theorem quiet_proceed {now : Nat} {event : Event} {e : Editor}
    (h : s.editor.handle store now event s.disk = (.proceed, e, s.disk)) :
    QuietTo remote store now event s (draw { s.resize event with editor := e, disk := s.disk }) where
  step := step_proceed h
  remote := remote_resize event s
  disk := rfl

/-! ## While a prompt is shown -/

/-- The session has the editor `e₀`, but with a prompt in front. -/
def Asking (e₀ : Editor) (purpose : Purpose) (s : Session σ) : Prop :=
  ∃ p : Prompt, p.purpose = purpose ∧ s.editor.undrawn = { e₀ with prompt := some p }.undrawn

theorem Asking.prompt (h : Asking e₀ purpose s) :
    ∃ p : Prompt, s.editor.prompt = some p ∧ p.purpose = purpose := by
  obtain ⟨p, hu, he⟩ := h
  exact ⟨p, prompt_of_undrawn he, hu⟩

/-- Any other prompt in front is as good. -/
theorem Asking.undrawn (h : Asking e₀ purpose s) (prompt : Option Prompt) :
    { s.editor with prompt }.undrawn = { e₀ with prompt }.undrawn := by
  obtain ⟨p, -, he⟩ := h
  exact undrawn_withPrompt he prompt

/-- An order for a prompt brings it up. -/
theorem ask_step (hr : s.editor.AtRest) {event : Event}
    (ho : s.editor.Orders event purpose.command) (now : Nat) :
    ∃ s', QuietTo remote store now event s s' ∧ Asking s.editor purpose s' := by
  have hstep : s.step remote store now event = _ := step_order hr ho now
  cases purpose with
  | «open» => exact ⟨_, ⟨hstep, rfl, rfl⟩, _, rfl, rfl⟩
  | save => exact ⟨_, ⟨hstep, rfl, rfl⟩, _, rfl, rfl⟩

/-- An event that does not end the prompt is quiet, and leaves a prompt. -/
theorem asking_step (h : Asking e₀ purpose s) {event : Event} (hends : ¬ event.EndsPrompt)
    (now : Nat) : ∃ s', QuietTo remote store now event s s' ∧ Asking e₀ purpose s' := by
  obtain ⟨p, hp, hu⟩ := h.prompt
  obtain ⟨p', hu', hh⟩ := handle_typed store now s.disk hp hends
  exact ⟨_, quiet_proceed hh, p', hu'.trans hu, h.undrawn (some p')⟩

/-- An event that cancels the prompt is quiet, and gives the editor back. -/
theorem cancel_step (h : Asking e₀ purpose s) {p : Prompt} (hp : s.editor.prompt = some p)
    {event : Event} (hcancel : p.CancelledBy event) (now : Nat) :
    ∃ s', QuietTo remote store now event s s' ∧
      s'.editor.undrawn = ({ e₀ with prompt := none }.info purpose.cancelled).undrawn := by
  obtain ⟨p', hp', hu⟩ := h.prompt
  obtain rfl : p = p' := Option.some.inj (hp.symm.trans hp')
  have hh := handle_cancel store now s.disk hp hcancel
  rw [hu] at hh
  exact ⟨_, quiet_proceed hh, undrawn_info (h.undrawn none) purpose.cancelled⟩

/-! ## From the order to the end -/

/-- The event of a visit is quiet. -/
def Quiet (v : Session σ × Moment) : Prop :=
  ∃ s', QuietTo remote store v.2.now v.2.event v.1 s'

variable {remote} {store} in
theorem visits_cons_of_quiet {m : Moment} (later : List Moment) {s' : Session σ}
    (h : QuietTo remote store m.now m.event (s.foundAt m) s') :
    s.play remote store (m :: later) = s'.play remote store later ∧
      s.visits remote store (m :: later) = (s.foundAt m, m) :: s'.visits remote store later := by
  have hnext : (s.stepAt remote store m).next = some s' := congrArg Step.next h.step
  simp [play, visits, hnext]

/-- As long as no event ends the prompt, all are quiet. -/
theorem asking_play {moments : List Moment} (hm : ∀ m ∈ moments, ¬ m.event.EndsPrompt)
    (h : Asking e₀ purpose s) :
    ∃ s', s.play remote store moments = some s' ∧ s'.remote = s.remote ∧ Asking e₀ purpose s' ∧
      ∀ v ∈ s.visits remote store moments, Quiet remote store v := by
  induction moments generalizing s with
  | nil => exact ⟨s, rfl, rfl, h, by simp [visits]⟩
  | cons m later ih =>
    rw [List.forall_mem_cons] at hm
    have hfound : Asking e₀ purpose (s.foundAt m) := h
    obtain ⟨s₁, hquiet, h₁⟩ := asking_step remote store hfound hm.1 m.now
    obtain ⟨s', hplay, hremote, h', hlater⟩ := ih hm.2 h₁
    obtain ⟨hp, hv⟩ := visits_cons_of_quiet later hquiet
    rw [hp, hv, List.forall_mem_cons]
    exact ⟨s', hplay, hremote.trans hquiet.remote, h', ⟨s₁, hquiet⟩, hlater⟩

/-- **A cancelled prompt leaves no trace.**  A prompt is ordered while nothing is
    in front of the regions, and whatever happens then, no Enter and no Escape
    among it, is quiet, and leaves a prompt.  When that is cancelled, by Escape
    or by Enter with nothing but blanks, the editor is as before, but for the
    status and what a draw computes. -/
theorem cancelled_prompt (hr : s.editor.AtRest) (purpose : Purpose) {opening : Moment}
    (ho : s.editor.Orders opening.event purpose.command) {moments : List Moment}
    (hm : ∀ m ∈ moments, ¬ m.event.EndsPrompt) :
    ∃ s₁ p, s.play remote store (opening :: moments) = some s₁ ∧ s₁.editor.prompt = some p ∧
      (∀ v ∈ s.visits remote store (opening :: moments), Quiet remote store v) ∧
      ∀ closing : Moment, p.CancelledBy closing.event →
        ∃ s₂, QuietTo remote store closing.now closing.event (s₁.foundAt closing) s₂ ∧
          s₂.remote = s.remote ∧
          s₂.editor.undrawn = { s.editor with status := .info purpose.cancelled }.undrawn := by
  have hfound : (s.foundAt opening).editor.AtRest := hr
  obtain ⟨s₀, hquiet, h₀⟩ := ask_step remote store hfound ho opening.now
  obtain ⟨s₁, hplay, hremote, h₁, hlater⟩ := asking_play remote store hm h₀
  obtain ⟨hp, hv⟩ := visits_cons_of_quiet moments hquiet
  obtain ⟨p, hprompt, -⟩ := h₁.prompt
  refine ⟨s₁, p, hp.trans hplay, hprompt, ?_, fun closing hcancel => ?_⟩
  · rw [hv, List.forall_mem_cons]
    exact ⟨⟨s₀, hquiet⟩, hlater⟩
  · have hfound₁ : Asking s.editor purpose (s₁.foundAt closing) := h₁
    obtain ⟨s₂, hquiet₂, hback⟩ :=
      cancel_step remote store hfound₁ hprompt hcancel closing.now
    refine ⟨s₂, hquiet₂, (hquiet₂.remote.trans hremote).trans hquiet.remote, hback.trans ?_⟩
    have hnone : { s.editor with prompt := none } = s.editor := by rw [← hr.prompt]
    rw [hnone]
    rfl

/-- What would interrupt, quit, run, ask, explain and edit, if no prompt were shown. -/
def shortcuts : List Moment :=
  [⟨0, .key (.char 'c') { control := true }, id⟩, ⟨1, .key (.char 'c') { control := true }, id⟩,
    ⟨2, .key (.char 'q') { control := true }, id⟩, ⟨3, .key (.function 5) {}, id⟩,
    ⟨4, .mouse (.press .left) ⟨55, 1⟩, id⟩, ⟨5, .key (.char 'o') { control := true }, id⟩,
    ⟨6, .key (.function 1) {}, id⟩, ⟨7, .key .tab {}, id⟩, ⟨8, .paste ['x'], id⟩]

theorem not_endsPrompt_shortcuts : ∀ m ∈ shortcuts, ¬ m.event.EndsPrompt := by
  simp only [shortcuts, List.forall_mem_cons]
  refine ⟨?_, ?_, ?_, ?_, ?_, ?_, ?_, ?_, ?_, by simp⟩ <;> rintro ⟨⟩

theorem shortcuts_cancelled :
    fresh.editor.buttonAt ⟨55, 1⟩ = some .run ∧
    ∃ s₁ s₂, fresh.play absent ⟨['t']⟩ (saveOrder :: shortcuts) = some s₁ ∧
      QuietTo absent ⟨['t']⟩ 9 (.key .escape {}) s₁ s₂ ∧
      s₂.editor.undrawn =
        { fresh.editor with status := .info "Save cancelled".toList }.undrawn := by
  have hr : fresh.editor.AtRest := ⟨rfl, rfl⟩
  have ho : fresh.editor.Orders saveOrder.event Purpose.save.command := .saveKey rfl
  obtain ⟨s₁, p, hplay, -, -, hcancel⟩ :=
    cancelled_prompt absent ⟨['t']⟩ hr .save ho not_endsPrompt_shortcuts
  obtain ⟨s₂, hquiet, -, hback⟩ := hcancel ⟨9, .key .escape {}, id⟩ (.escape {})
  exact ⟨by decide, s₁, s₂, hplay, hquiet, hback⟩

end Session

end Runpad
