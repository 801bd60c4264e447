/-
  An input that is not modified has nothing unsaved.

  * `Editor.stored?` is the text that an event opens or saves, `lastStored` the
    one that a session opened or saved last;
  * `Response.flag`, `flag_step`: an event that stores a text clears the mark and
    leaves that text, any other event sets the mark, or keeps it with the input;
  * `unmodified_stored`: without the mark, the input is the text stored last.
-/
import Mathlib
import Runpad.Proofs.Editor.Texts

namespace Runpad

namespace Editor

/-! ## Stored texts -/

/-- The text that an event opens or saves, if it does. -/
def stored? (store : Store) (d : Disk) (event : Event) (e : Editor) : Option Text :=
  match event, e.prompt with
  | .key .enter _, some p =>
    p.chosen.bind fun path =>
      match p.purpose with
      | .open => (Store.open path d).toOption
      | .save => (store.save path e.input.text d).toOption.map fun _ => e.input.text
  | _, _ => none

variable {store : Store} {now : Nat} {e e' : Editor} {d d' : Disk} {event : Event} {flow : Flow}

theorem stored?_of_prompt_none (h : e.prompt = none) : e.stored? store d event = none := by
  unfold stored?
  rw [h]
  split <;> simp_all

theorem stored?_of_not_endsPrompt (h : ¬ event.EndsPrompt) : e.stored? store d event = none := by
  unfold stored?
  split
  · exact absurd (.enter _) h
  · rfl

theorem stored?_of_cancelledBy {p : Prompt} (hp : e.prompt = some p) (h : p.CancelledBy event) :
    e.stored? store d event = none := by
  cases h with
  | escape m => rfl
  | blank m hblank => simp only [stored?, hp, Prompt.chosen_eq_none_iff.2 hblank, Option.bind_none]

theorem stored?_enter {p : Prompt} {path : Path} {m : Modifiers} (hp : e.prompt = some p)
    (hc : p.chosen = some path) :
    e.stored? store d (.key .enter m) =
      match p.purpose with
      | .open => (Store.open path d).toOption
      | .save => (store.save path e.input.text d).toOption.map fun _ => e.input.text := by
  simp only [stored?, hp, hc, Option.bind_some]

/-! ## The mark -/

/-- `e'` is `e` after a text was stored, or not: the mark and the input. -/
def FlagAfter (stored : Option Text) (e e' : Editor) : Prop :=
  match stored with
  | some t => e'.modified = false ∧ e'.input.text = t
  | none => e'.modified = true ∨ e'.modified = e.modified ∧ e'.input.text = e.input.text

theorem FlagAfter.of_kept (hm : e'.modified = e.modified) (hi : e'.input.text = e.input.text) :
    FlagAfter none e e' :=
  Or.inr ⟨hm, hi⟩

theorem modified_mapFocused (move : TextArea → TextArea) (e : Editor) :
    (e.mapFocused move).modified = e.modified := by
  unfold mapFocused
  split <;> rfl

theorem Response.flag (h : Response store now e d event flow e' d') :
    FlagAfter (e.stored? store d event) e e' := by
  cases h with
  | typed hp hends hu =>
    rw [stored?_of_not_endsPrompt hends]
    exact .of_kept rfl rfl
  | cancelled hp hcancel =>
    rw [stored?_of_cancelledBy hp hcancel]
    exact .of_kept rfl rfl
  | opened hp hu hc ho =>
    rw [stored?_enter hp hc, hu, ho]
    exact ⟨rfl, TextArea.text_ofText _⟩
  | notOpened hp hu hc ho =>
    rw [stored?_enter hp hc, hu, ho]
    exact .of_kept rfl rfl
  | saved hp hu hc hs =>
    rw [stored?_enter hp hc, hu, hs]
    exact ⟨rfl, rfl⟩
  | notSaved hp hu hc hs =>
    rw [stored?_enter hp hc, hu, hs]
    exact .of_kept rfl rfl
  | moved hp hmove =>
    rw [stored?_of_prompt_none hp]
    exact .of_kept (modified_mapFocused _ _) (input_text_moved hmove _ e)
  | edited hr =>
    rw [stored?_of_prompt_none hr.prompt]
    exact Or.inl rfl
  | pasted hp =>
    rw [stored?_of_prompt_none hp]
    exact Or.inl rfl
  | dismissed hp | ignored hp =>
    rw [stored?_of_prompt_none hp]
    exact .of_kept rfl rfl
  | explained hr | interrupted hr | interruptedAgain hr | left hr | ordered hr =>
    rw [stored?_of_prompt_none hr.prompt]
    exact .of_kept rfl rfl

end Editor

namespace Session

open Editor

variable {σ : Type} {remote : Remote σ} {store : Store} {s s' : Session σ}

theorem modified_completeRun (remote : Remote σ) (program : Text) (e : Editor) (r : σ) :
    (e.completeRun remote program r).1.modified = e.modified := by
  unfold completeRun
  split <;> rfl

theorem modified_run (remote : Remote σ) (s : Session σ) :
    (s.execute remote .run).2.editor.modified = s.editor.modified :=
  modified_completeRun remote _ _ s.remote

/-- The mark and the input at the next draw. -/
theorem flag_step {now : Nat} {event : Event}
    (h : (s.step remote store now event).next = some s') :
    FlagAfter (s.editor.stored? store s.disk event) s.editor s'.editor := by
  cases advance_of_step h with
  | responded hresponse => exact hresponse.flag
  | asked purpose hr =>
    rw [stored?_of_prompt_none hr.prompt]
    exact .of_kept rfl rfl
  | ran hr =>
    rw [stored?_of_prompt_none hr.prompt]
    exact .of_kept (modified_run remote s) (input_text_run remote s)

/-! ## Over a whole session -/

/-- The text that was opened or saved last at the given visits, or else `t`. -/
def lastStored (store : Store) (t : Text) (visited : List (Session σ × Moment)) : Text :=
  (visited.filterMap fun v => v.1.editor.stored? store v.1.disk v.2.event).getLast?.getD t

theorem lastStored_concat (store : Store) (t : Text) (visited : List (Session σ × Moment))
    (v : Session σ × Moment) :
    lastStored store t (visited ++ [v]) =
      (v.1.editor.stored? store v.1.disk v.2.event).getD (lastStored store t visited) := by
  cases hv : v.1.editor.stored? store v.1.disk v.2.event <;> simp [lastStored, hv]

theorem flag_stepAt {m : Moment} (h : (s.stepAt remote store m).next = some s') :
    FlagAfter (s.editor.stored? store (m.others s.disk) m.event) s.editor s'.editor :=
  flag_step (s := s.foundAt m) h

/-- If the input is the text stored last wherever there is no mark, so it is after
    one more moment. -/
theorem unmodified_stepAt {t : Text} {visited : List (Session σ × Moment)} {m : Moment}
    (ih : s.editor.modified = false → s.editor.input.text = lastStored store t visited)
    (h : (s.stepAt remote store m).next = some s') (hclear : s'.editor.modified = false) :
    s'.editor.input.text = lastStored store t (visited ++ [(s.foundAt m, m)]) := by
  have hflag := flag_stepAt h
  rw [lastStored_concat]
  cases hs : s.editor.stored? store (m.others s.disk) m.event with
  | some stored =>
    rw [hs] at hflag
    exact hflag.2.trans (by simp [foundAt, hs])
  | none =>
    rw [hs] at hflag
    rcases hflag with hset | ⟨hsame, hinput⟩
    · rw [hclear] at hset
      cases hset
    · rw [hinput, ih (hsame ▸ hclear)]
      simp [foundAt, hs]

/-- The text of the file that a session starts with, if it can be opened. -/
def startText (file : Option Path) (d : Disk) : Text :=
  (file.bind fun path => (Store.open path d).toOption).getD []

theorem input_text_start (remote : Remote σ) (r : σ) (d : Disk) (file : Option Path)
    (width height : Nat) :
    (Session.start remote r d file width height).editor.input.text = startText file d := by
  cases file with
  | none => rfl
  | some path =>
    simp only [Session.start, input_text_draw, openFile, startText, Option.bind_some]
    cases Store.open path d with
    | ok t => exact TextArea.text_ofText t
    | error fault => rfl

/-- **Without the mark, nothing is unsaved.**  At every draw of a session that
    has no mark, the input is the text that was opened or saved last.  Only
    opening or saving a text clears the mark, and it always does. -/
theorem unmodified_stored (remote : Remote σ) (store : Store) (r : σ) (d : Disk)
    (file : Option Path) (width height : Nat) {moments : List Moment} {s : Session σ}
    (h : (Session.start remote r d file width height).play remote store moments = some s) :
    (s.editor.modified = false →
      s.editor.input.text = lastStored store (startText file d)
        ((Session.start remote r d file width height).visits remote store moments)) ∧
    ∀ m s', (s.stepAt remote store m).next = some s' →
      (s.editor.stored? store (m.others s.disk) m.event = none →
        s.editor.modified = true → s'.editor.modified = true) ∧
      ∀ t, s.editor.stored? store (m.others s.disk) m.event = some t →
        s'.editor.modified = false ∧ s'.editor.input.text = t := by
  refine ⟨?_, fun m s' hm => ?_⟩
  · refine play_induction (P := fun visited s₁ => s₁.editor.modified = false →
      s₁.editor.input.text = lastStored store (startText file d) visited) ?_ ?_ h
    · exact fun _ => input_text_start remote r d file width height
    · exact fun visited s₁ m s₂ ih hm => unmodified_stepAt ih hm
  · have hflag := flag_stepAt hm
    refine ⟨fun hs hset => ?_, fun t hs => ?_⟩
    · rw [hs] at hflag
      rcases hflag with hset' | ⟨hsame, -⟩
      · exact hset'
      · rw [hsame, hset]
    · rw [hs] at hflag
      exact hflag

/-- A text is typed and saved, and the prompt for a second save is cancelled. -/
def typedAndSaved : List Moment :=
  [⟨0, .key (.char 'a') {}, id⟩, saveOrder, ⟨0, .paste ['x'], id⟩, ⟨0, .key .enter {}, id⟩,
    saveOrder, ⟨0, .key .escape {}, id⟩]

theorem typedAndSaved_stored :
    ∃ s, fresh.play absent ⟨['t']⟩ typedAndSaved = some s ∧
      s.editor.modified = false ∧ s.editor.input.text = ['a'] := by
  have hmark : (fresh.play absent ⟨['t']⟩ typedAndSaved).map (·.editor.modified) = some false := by
    decide
  obtain ⟨s, hs, hclear⟩ := Option.map_eq_some_iff.1 hmark
  refine ⟨s, hs, hclear, ?_⟩
  have hstored : lastStored ⟨['t']⟩ (startText none ⟨[], []⟩)
      (fresh.visits absent ⟨['t']⟩ typedAndSaved) = ['a'] := by decide
  rw [← hstored]
  exact (unmodified_stored absent ⟨['t']⟩ () ⟨[], []⟩ none 60 12 hs).1 hclear

end Session

end Runpad
