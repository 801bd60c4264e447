/-
  Nothing leaves its range.

  * `Stage` lists what happens to an editor between two draws, and in a draw, each
    with what it does to the texts; `Occurs` are the editors that come about in
    such stages, one after the other;
  * `InRange` says that the texts of an editor are sound and its parts on the screen,
    and that therefore all that can be done to the texts goes through: every operation
    in a region, every edit of a prompt, every draw, and the next stage;
  * `Occurs.inRange`: so it is for every editor that comes about;
  * `session_in_range`: these are all editors of a session.
-/
import Mathlib
import Runpad.Proofs.Editor.Drawing
import Runpad.Proofs.Editor.Play

namespace Runpad

open TextArea (Operation)

namespace Editor

/-! ## Stages -/

/-- What happens to an editor, and what that does to the texts. -/
inductive Stage (store : Store) : Editor → List Touch → Editor → Prop
  /-- A file named at the start is opened. -/
  | opened (path : Path) (d : Disk) (e : Editor) :
      Stage store e (openTouches (some path) d) (e.openFile (some path) d)
  | handled (now : Nat) (event : Event) (d : Disk) (e : Editor) :
      Stage store e (e.touches d event) (e.handle store now event d).2.1
  | asked (purpose : Purpose) (e : Editor) :
      Stage store e [.ask (e.path.getD [])] (e.ask purpose)
  | begun (e : Editor) : Stage store e [.region .output .clear] e.beginRun.2
  | finished (outcome : Outcome) (e : Editor) :
      Stage store e [.region .output (.setText outcome.shown)] (e.finishRun outcome)
  | failed (message : Text) (e : Editor) : Stage store e [] (e.failRun message)
  | relabelled (label : Text) (e : Editor) : Stage store e [] { e with label }
  | drawn (width height : Nat) (e : Editor) :
      Stage store e (drawTouches (layout ⟨0, 0, width, height⟩)) (e.drawn width height)

/-- The editor comes about from a fresh one, stage by stage. -/
inductive Occurs (store : Store) : Editor → Prop
  | started (label : Text) : Occurs store (start label)
  | next {e e' : Editor} {touches : List Touch} : Occurs store e → Stage store e touches e' →
      Occurs store e'

variable {store : Store} {e e' : Editor} {touches : List Touch}

theorem within_of_sound (h : e.parts.Sound) : ∀ p, e.prompt = some p → p.Within := by
  intro p hp
  refine Prompt.sound_line_iff.1 (h.prompt p.line ?_)
  rw [parts, hp]
  rfl

/-- All that a stage does to sound texts goes through. -/
theorem Stage.perform (h : Stage store e touches e') (hfit : e.regions.Fit)
    (hsound : e.parts.Sound) : e.parts.perform touches = some e'.parts := by
  cases h with
  | opened path d => exact perform_openFile d (some path) e
  | handled now event d => exact perform_handle d store now event hfit (within_of_sound hsound)
  | asked purpose => rfl
  | begun => exact perform_region (Operation.sized_of_nil rfl) .output e
  | finished outcome => exact perform_region (Operation.sized_of_nil rfl) .output e
  | failed | relabelled => rfl
  | drawn width height => exact perform_drawn width height e

theorem regions_openFile (path : Option Path) (d : Disk) (e : Editor) :
    (e.openFile path d).regions = e.regions := by
  unfold openFile
  split
  · rfl
  · split <;> rfl

theorem Response.regions {now : Nat} {d d' : Disk} {event : Event} {flow : Flow}
    (h : Response store now e d event flow e' d') : e'.regions = e.regions := by
  cases h with
  | @moved _ focus => cases focus <;> rfl
  | _ => rfl

/-- Only a draw moves the parts of the screen. -/
theorem Stage.fit (h : Stage store e touches e') (hfit : e.regions.Fit) : e'.regions.Fit := by
  cases h with
  | opened path d =>
    rw [regions_openFile]
    exact hfit
  | handled now event d =>
    rw [(handle_response store now d event).regions]
    exact hfit
  | drawn width height => exact fit_layout width height
  | asked | begun | finished | failed | relabelled => exact hfit

theorem Occurs.fit (h : Occurs store e) : e.regions.Fit := by
  induction h with
  | started label => exact fit_nowhere
  | next _ hstage ih => exact hstage.fit ih

theorem Occurs.sound (h : Occurs store e) : e.parts.Sound := by
  induction h with
  | started label => exact ⟨TextArea.tidy_empty.sound, TextArea.tidy_empty.sound, nofun⟩
  | next hoccurs hstage ih => exact ih.perform (hstage.perform hoccurs.fit ih)

/-! ## In range -/

/-- The texts are sound and the parts on the screen, and nothing that is done to the
    texts leaves its range.  The sizes of an operation are to be below the bound, as
    those of the parts are. -/
structure InRange (store : Store) (e : Editor) : Prop where
  sound : e.parts.Sound
  fit : e.regions.Fit
  region : ∀ focus (op : Operation), op.Sized →
    ∃ b, (Touch.region focus op).onParts e.parts = some b ∧ b.Sound
  prompt : e.prompt ≠ none → ∀ edit, ∃ b, (Touch.prompt edit).onParts e.parts = some b ∧ b.Sound
  draw : ∀ width height, width ≤ Rect.lastCoordinate → height ≤ Rect.lastCoordinate →
    e.parts.draw width height e.focus =
      some ((e.drawn width height).parts, (e.drawn width height).cursor ⟨0, 0, width, height⟩)
  stage : ∀ touches e', Stage store e touches e' → e.parts.perform touches = some e'.parts

theorem inRange_of_sound (h : e.parts.Sound) (hfit : e.regions.Fit) : InRange store e where
  sound := h
  fit := hfit
  region focus op hsized :=
    ⟨_, onParts_region hsized focus e, h.onParts (onParts_region hsized focus e)⟩
  prompt hprompt edit := by
    obtain ⟨p, hp⟩ := Option.ne_none_iff_exists'.1 hprompt
    have hedit := onParts_prompt hp (within_of_sound h p hp) edit
    exact ⟨_, hedit, h.onParts hedit⟩
  draw width height hwidth hheight := draw_parts width height hwidth hheight e
  stage _ _ hstage := hstage.perform hfit h

/-- **Every editor that comes about is in range.** -/
theorem Occurs.inRange (h : Occurs store e) : InRange store e :=
  inRange_of_sound h.sound h.fit

theorem Occurs.completeRun {σ : Type} (h : Occurs store e) (remote : Remote σ) (program : Text)
    (r : σ) : Occurs store (e.completeRun remote program r).1 := by
  unfold Editor.completeRun
  split
  · exact h.next (.finished _ e)
  · exact h.next (.failed _ e)

end Editor

namespace Session

open Editor

variable {σ : Type} {remote : Remote σ} {store : Store} {s s' : Session σ}

theorem occurs_draw (h : Occurs store s.editor) : Occurs store s.draw.editor :=
  h.next (.drawn s.width s.height s.editor)

theorem occurs_start (remote : Remote σ) (r : σ) (d : Disk) (file : Option Path)
    (width height : Nat) : Occurs store (start remote r d file width height).editor := by
  have hstarted : Occurs store (Editor.start (remote.describe r)) := .started _
  unfold start
  cases file with
  | none => exact occurs_draw hstarted
  | some path => exact occurs_draw (hstarted.next (.opened path d _))

theorem occurs_execute (h : Occurs store s.editor) (remote : Remote σ) (command : Command) :
    (∀ e, (s.execute remote command).1 = some e → Occurs store e) ∧
      Occurs store (s.execute remote command).2.editor := by
  cases command with
  | run =>
    have hduring := (h.next (.begun s.editor)).next (.drawn s.width s.height s.editor.beginRun.2)
    refine ⟨?_, ?_⟩
    · rintro _ ⟨⟩
      exact hduring
    · exact (hduring.completeRun remote _ s.remote).next (.relabelled _ _)
  | save => exact ⟨by rintro _ ⟨⟩, h.next (.asked .save s.editor)⟩
  | «open» => exact ⟨by rintro _ ⟨⟩, h.next (.asked .open s.editor)⟩

/-- The editors of one event: after it is handled, while a program runs, and at
    the next draw. -/
theorem occurs_step (h : Occurs store s.editor) (remote : Remote σ) (now : Nat) (event : Event) :
    Occurs store (s.editor.handle store now event s.disk).2.1 ∧
      (∀ e, (s.step remote store now event).during = some e → Occurs store e) ∧
      ∀ s', (s.step remote store now event).next = some s' → Occurs store s'.editor := by
  have hhandled := h.next (.handled now event s.disk s.editor)
  refine ⟨hhandled, ?_⟩
  rcases hh : s.editor.handle store now event s.disk with ⟨flow, e, d⟩
  rw [hh] at hhandled
  simp only [step, editor_resize, disk_resize, hh]
  generalize hs₁ : ({ s.resize event with editor := e, disk := d } : Session σ) = s₁
  have h₁ : Occurs store s₁.editor := by
    rw [← hs₁]
    exact hhandled
  cases flow with
  | quit => constructor <;> rintro _ ⟨⟩
  | proceed =>
    refine ⟨by rintro _ ⟨⟩, ?_⟩
    rintro _ ⟨⟩
    exact occurs_draw h₁
  | execute command =>
    obtain ⟨hduring, hafter⟩ := occurs_execute h₁ remote command
    refine ⟨hduring, ?_⟩
    rintro _ ⟨⟩
    exact occurs_draw hafter

theorem occurs_play {moments : List Moment} (h : Occurs store s.editor)
    (hplay : s.play remote store moments = some s') : Occurs store s'.editor := by
  refine play_induction (P := fun _ s₁ => Occurs store s₁.editor) h ?_ hplay
  intro visited s₁ m s₂ h₁ hm
  have hfound : Occurs store (s₁.foundAt m).editor := h₁
  exact (occurs_step hfound remote m.now m.event).2.2 s₂ hm

/-- **Nothing leaves its range in a session.**  At every draw, and at every point
    up to the next one, both regions have a line, no line holds a line feed, the
    cursor is on a character of its line or at its end, and so it is in the path
    of a prompt.  Every operation, every edit and every draw from there goes
    through: no line is missing, no character is cut, no difference is below zero,
    no sum with a size on the screen leaves its word and no coordinate has more than
    16 bits. -/
theorem session_in_range (store : Store) :
    (∀ e, Occurs store e → InRange store e) ∧
    ∀ {σ : Type} (remote : Remote σ) (r : σ) (d : Disk) (file : Option Path) (width height : Nat)
      (moments : List Moment) (s : Session σ),
      (start remote r d file width height).play remote store moments = some s →
        InRange store s.editor ∧
        ∀ m : Moment,
          InRange store (s.editor.handle store m.now m.event (m.others s.disk)).2.1 ∧
          (∀ e, (s.stepAt remote store m).during = some e → InRange store e) ∧
          ∀ s', (s.stepAt remote store m).next = some s' → InRange store s'.editor := by
  refine ⟨fun e h => h.inRange, fun remote r d file width height moments s hplay => ?_⟩
  have hoccurs : Occurs store s.editor :=
    occurs_play (occurs_start remote r d file width height) hplay
  refine ⟨hoccurs.inRange, fun m => ?_⟩
  have hfound : Occurs store (s.foundAt m).editor := hoccurs
  obtain ⟨hhandled, hduring, hnext⟩ := occurs_step hfound remote m.now m.event
  exact ⟨hhandled.inRange, fun e he => (hduring e he).inRange, fun s' hs => (hnext s' hs).inRange⟩

/-- A disk with a file of two lines, of one character each. -/
def twoLines : Disk :=
  ⟨[], [([['p']], .file [0xC3, 0xA9, 0x0A, 0x62])]⟩

/-- A character of two bytes after another one, the line break after them taken
    out, a screen of no size, and a character of three bytes in place of a path. -/
def wideEdits : List Moment :=
  [⟨0, .key .right {}, id⟩, ⟨1, .key (.char 'ß') {}, id⟩, ⟨2, .key .delete {}, id⟩,
    ⟨3, .resize 0 0, id⟩, saveOrder, ⟨4, .key .backspace {}, id⟩, ⟨5, .key (.char '€') {}, id⟩]

theorem wideEdits_in_range :
    ∃ s, (start absent () twoLines (some ['p']) 3 1).play absent ⟨['t']⟩ wideEdits = some s ∧
      s.editor.parts =
        ⟨⟨[[0xC3, 0xA9, 0xC3, 0x9F, 0x62]], 0, 2, 0, 2⟩, ⟨[[]], 0, 0, 0, 0⟩,
          some ⟨[0xE2, 0x82, 0xAC], 1⟩⟩ ∧
      InRange ⟨['t']⟩ s.editor := by
  have hparts : ((start absent () twoLines (some ['p']) 3 1).play absent ⟨['t']⟩ wideEdits).map
      (fun s => s.editor.parts) =
        some ⟨⟨[[0xC3, 0xA9, 0xC3, 0x9F, 0x62]], 0, 2, 0, 2⟩, ⟨[[]], 0, 0, 0, 0⟩,
          some ⟨[0xE2, 0x82, 0xAC], 1⟩⟩ := by
    decide
  obtain ⟨s, hplay, hs⟩ := Option.map_eq_some_iff.1 hparts
  obtain ⟨hrange, -⟩ :=
    (session_in_range ⟨['t']⟩).2 absent () twoLines (some ['p']) 3 1 wideEdits s hplay
  exact ⟨s, hplay, hs, hrange⟩

end Session

end Runpad
