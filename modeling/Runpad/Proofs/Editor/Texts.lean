/-
  What changes the two texts.

  * `Runs`, `EditsInput` and `Opens` are the events that may change a text;
    `TextsAfter` says what an event leaves of both;
  * `Response.output_text`, `Response.input_text`: what the editor itself does to
    them; `textsAfter_step`: what becomes of them up to the next draw;
  * `output_play`, `input_play`: without such events, they stay over a whole
    session.
-/
import Mathlib
import Runpad.Proofs.Editor.Play

namespace Runpad

/-- What a run shows: the result, each delimiter a line break, or nothing if
    there is none. -/
def Remote.shows {σ : Type} (remote : Remote σ) (program : Text) (r : σ) : Text :=
  match (remote.execute program r).1 with
  | .ok outcome => resultText outcome.raw
  | .error _ => []

namespace Editor

/-! ## The events that change a text -/

/-- The event runs the input. -/
def Runs (e : Editor) (event : Event) : Prop :=
  e.AtRest ∧ e.Orders event .run

/-- The event is an edit of the input: a key that edits and gives no command,
    or a paste. -/
inductive EditsInput (e : Editor) : Event → Prop
  | key {key : Key} {m : Modifiers} : e.AtRest → e.focus = .input → key.Edits m →
      (∀ command, ¬ e.Orders (.key key m) command) → EditsInput e (.key key m)
  | paste {t : Text} : e.prompt = none → e.focus = .input → EditsInput e (.paste t)

/-- The event opens a file with the text `t`. -/
inductive Opens (e : Editor) (d : Disk) : Event → Text → Prop
  | confirm {m : Modifiers} {p : Prompt} {path : Path} {t : Text} : e.prompt = some p →
      p.purpose = .open → Text.trim p.path = path → path ≠ [] → Store.open path d = .ok t →
      Opens e d (.key .enter m) t

variable {store : Store} {now : Nat} {e e' : Editor} {d d' : Disk} {event : Event} {flow : Flow}

/-! ## What the editor does to them -/

theorem text_of_move {move : TextArea → TextArea} (h : ∀ a : TextArea, (move a).lines = a.lines)
    (a : TextArea) : (move a).text = a.text := by
  simp only [TextArea.text, h a]

theorem input_text_moved {move : TextArea → TextArea}
    (h : ∀ a : TextArea, (move a).lines = a.lines) (focus : Focus) (e : Editor) :
    ({ e with focus }.mapFocused move).input.text = e.input.text := by
  cases focus with
  | input => exact text_of_move h e.input
  | output => rfl

theorem output_text_moved {move : TextArea → TextArea}
    (h : ∀ a : TextArea, (move a).lines = a.lines) (focus : Focus) (e : Editor) :
    ({ e with focus }.mapFocused move).output.text = e.output.text := by
  cases focus with
  | input => rfl
  | output => exact text_of_move h e.output

/-- No event changes the output by itself: only a run does, which follows. -/
theorem Response.output_text (h : Response store now e d event flow e' d') :
    e'.output.text = e.output.text := by
  cases h with
  | moved hp hmove => exact output_text_moved hmove _ e
  | _ => rfl

/-- An event keeps the input, edits it, or opens a file. -/
theorem Response.input_text (h : Response store now e d event flow e' d') :
    e'.input.text = e.input.text ∨ e.EditsInput event ∨ ∃ t, e.Opens d event t := by
  cases h with
  | opened hp hu hc ho =>
    obtain ⟨htrim, hne⟩ := Prompt.chosen_eq_some_iff.1 hc
    exact Or.inr (Or.inr ⟨_, .confirm hp hu htrim hne ho⟩)
  | moved hp hmove => exact Or.inl (input_text_moved hmove _ e)
  | edited hr hf hedit hno => exact Or.inr (Or.inl (.key hr hf (edits_of_edit? hedit) hno))
  | pasted hp hf => exact Or.inr (Or.inl (.paste hp hf))
  | _ => exact Or.inl rfl

/-- The text of an opened file is the input. -/
theorem Opens.handle {t : Text} (h : e.Opens d event t) (store : Store) (now : Nat) :
    ∃ e', e.handle store now event d = (.proceed, e', d) ∧ e'.input.text = t := by
  cases h with
  | @confirm m p path t hp hu htrim hne ho =>
    have hc : p.chosen = some path := Prompt.chosen_eq_some_iff.2 ⟨htrim, hne⟩
    refine ⟨{ e with prompt := none }.loadText path t, ?_, TextArea.text_ofText t⟩
    simp only [handle_enter store now d hp, hu, hc, finishPrompt, openFile, ho]

/-! ## What a run does to them -/

variable {σ : Type}

theorem shown_of_execute {remote : Remote σ} {program : Text} {r : σ} {outcome : Outcome}
    (h : (remote.execute program r).1 = .ok outcome) : outcome.shown = resultText outcome.raw := by
  unfold Remote.execute at h
  split at h
  · cases h
  · split at h
    · cases h
    · cases h
      rfl

/-- A program that finds the output empty leaves in it what it shows. -/
theorem output_completeRun (remote : Remote σ) (program : Text) {e : Editor} (r : σ)
    (h : e.output.text = []) :
    (e.completeRun remote program r).1.output.text = remote.shows program r := by
  unfold completeRun Remote.shows
  split
  · next outcome r' hx =>
    have hshown := shown_of_execute (congrArg Prod.fst hx)
    simp only [hx, finishRun, info, TextArea.text_ofText, hshown]
  · next fault r' hx => simpa only [hx, failRun, error] using h

/-- What is left of the interpreter is what executing the program leaves of it. -/
theorem remote_completeRun (remote : Remote σ) (program : Text) (e : Editor) (r : σ) :
    (e.completeRun remote program r).2 = (remote.execute program r).2 := by
  unfold completeRun
  split <;> simp_all

end Editor

namespace Session

open Editor

variable {σ : Type} {remote : Remote σ} {store : Store} {s s' : Session σ}

@[simp] theorem input_text_draw (s : Session σ) :
    s.draw.editor.input.text = s.editor.input.text := rfl

theorem input_text_run (remote : Remote σ) (s : Session σ) :
    (s.execute remote .run).2.editor.input.text = s.editor.input.text := by
  simp only [execute, input_completeRun]
  rfl

theorem output_text_run (remote : Remote σ) (s : Session σ) :
    (s.execute remote .run).2.editor.output.text =
      remote.shows (programText s.editor.input.text) s.remote :=
  output_completeRun remote _ s.remote rfl

/-! ## Up to the next draw -/

/-- What an event leaves of the two texts. -/
structure TextsAfter (remote : Remote σ) (event : Event) (s s' : Session σ) : Prop where
  output_kept : ¬ s.editor.Runs event → s'.editor.output.text = s.editor.output.text
  output_run : s.editor.Runs event →
    s'.editor.output.text = remote.shows (programText s.editor.input.text) s.remote
  input_kept : ¬ s.editor.EditsInput event → (∀ t, ¬ s.editor.Opens s.disk event t) →
    s'.editor.input.text = s.editor.input.text
  input_opened : ∀ t, s.editor.Opens s.disk event t → s'.editor.input.text = t

theorem output_text_step {now : Nat} {event : Event}
    (h : (s.step remote store now event).next = some s') (hno : ¬ s.editor.Runs event) :
    s'.editor.output.text = s.editor.output.text := by
  cases advance_of_step h with
  | responded hresponse => exact hresponse.output_text
  | asked => rfl
  | ran hr ho => exact absurd ⟨hr, ho⟩ hno

theorem input_text_step {now : Nat} {event : Event}
    (h : (s.step remote store now event).next = some s') (hno : ¬ s.editor.EditsInput event)
    (hno' : ∀ t, ¬ s.editor.Opens s.disk event t) :
    s'.editor.input.text = s.editor.input.text := by
  cases advance_of_step h with
  | responded hresponse =>
    rcases hresponse.input_text with hi | hi | ⟨t, hi⟩
    · exact hi
    · exact absurd hi hno
    · exact absurd hi (hno' t)
  | asked => rfl
  | ran => exact input_text_run remote s

theorem textsAfter_step {now : Nat} {event : Event}
    (h : (s.step remote store now event).next = some s') : TextsAfter remote event s s' where
  output_kept := output_text_step h
  output_run := fun ⟨hr, ho⟩ => by
    rw [step_order hr ho] at h
    cases h
    exact output_text_run remote s
  input_kept := input_text_step h
  input_opened t ht := by
    obtain ⟨e', hh, hi⟩ := ht.handle store now
    rw [step_proceed hh] at h
    cases h
    exact hi

/-! ## Over a whole session -/

/-- Without a run, the output stays. -/
theorem output_play {moments : List Moment} (h : s.play remote store moments = some s')
    (hno : ∀ v ∈ s.visits remote store moments, ¬ v.1.editor.Runs v.2.event) :
    s'.editor.output.text = s.editor.output.text := by
  refine play_keeps (fun s => s.editor.output.text) (fun s₁ m s₂ hm hs => ?_) h hno
  exact output_text_step (s := s₁.foundAt m) hs hm

/-- Without an edit and an opened file, the input stays. -/
theorem input_play {moments : List Moment} (h : s.play remote store moments = some s')
    (hno : ∀ v ∈ s.visits remote store moments,
      ¬ v.1.editor.EditsInput v.2.event ∧ ∀ t, ¬ v.1.editor.Opens v.1.disk v.2.event t) :
    s'.editor.input.text = s.editor.input.text := by
  refine play_keeps (fun s => s.editor.input.text) (fun s₁ m s₂ hm hs => ?_) h hno
  exact input_text_step (s := s₁.foundAt m) hs hm.1 hm.2

/-- **Each text changes only by its own commands.**  An event leaves both texts
    as `TextsAfter` says: a run puts its result into the output, or nothing, and
    a file that is opened becomes the input; else the input changes by edits
    alone.  So over a whole session the output stays as long as nothing is run,
    whatever is typed and pasted, and the input as long as nothing is edited or
    opened. -/
theorem texts_change_by_commands (remote : Remote σ) (store : Store) (s : Session σ) :
    (∀ now event s', (s.step remote store now event).next = some s' →
      TextsAfter remote event s s') ∧
    ∀ moments s', s.play remote store moments = some s' →
      ((∀ v ∈ s.visits remote store moments, ¬ v.1.editor.Runs v.2.event) →
        s'.editor.output.text = s.editor.output.text) ∧
      ((∀ v ∈ s.visits remote store moments,
          ¬ v.1.editor.EditsInput v.2.event ∧ ∀ t, ¬ v.1.editor.Opens v.1.disk v.2.event t) →
        s'.editor.input.text = s.editor.input.text) :=
  ⟨fun _ _ _ h => textsAfter_step h, fun _ _ h => ⟨output_play h, input_play h⟩⟩

end Session

end Runpad
