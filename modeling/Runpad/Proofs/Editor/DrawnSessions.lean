/-
  A session that waits for an event was drawn.

  * `Session.Drawn` says that nothing was changed since the last draw; `drawn_step` and
    `drawn_play`: so it is whenever a session waits for an event;
  * `Drawn.regions`: the parts are then where the screen shows them;
  * `Drawn.congr`: a draw concerns the texts and the places of the parts, and nothing else.
-/
import Mathlib
import Runpad.Proofs.Editor.Play
import Runpad.Proofs.Editor.Redrawing

namespace Runpad.Session

open Editor

variable {σ : Type} {remote : Remote σ} {store : Store} {s s' : Session σ}

/-- Nothing was changed since the last draw. -/
def Drawn (s : Session σ) : Prop :=
  s.editor.drawn s.width s.height = s.editor

theorem Drawn.draw (h : Drawn s) : s.draw = s := by
  rw [Session.draw, h]

theorem drawn_draw (s : Session σ) : Drawn s.draw :=
  s.editor.drawn_drawn s.width s.height

theorem drawn_step {now : Nat} {event : Event}
    (h : (s.step remote store now event).next = some s') : Drawn s' := by
  cases advance_of_step h with
  | responded | asked | ran => exact drawn_draw _

theorem drawn_start (remote : Remote σ) (r : σ) (d : Disk) (file : Option Path)
    (width height : Nat) : Drawn (start remote r d file width height) :=
  drawn_draw _

/-- A session that waits for an event was drawn. -/
theorem drawn_play {moments : List Moment} (h : Drawn s)
    (hplay : s.play remote store moments = some s') : Drawn s' :=
  play_induction (P := fun _ s₁ => Drawn s₁) h (fun _ _ _ _ _ hm => drawn_step hm) hplay

theorem Drawn.foundAt (h : Drawn s) (m : Moment) : Drawn (s.foundAt m) := h

/-- The parts are where the screen shows them. -/
theorem Drawn.regions (h : Drawn s) : s.editor.regions = layout ⟨0, 0, s.width, s.height⟩ :=
  (congrArg Editor.regions h).symm

/-- Changes elsewhere than in the texts and the places of the parts need no draw. -/
theorem Drawn.congr (h : Drawn s) {e : Editor} (hinput : e.input = s.editor.input)
    (houtput : e.output = s.editor.output) (hregions : e.regions = s.editor.regions) :
    Drawn { s with editor := e } := by
  have hdrawn : s.editor.drawn s.width s.height = s.editor := h
  have hparts : e.drawn s.width s.height =
      { e with
        regions := (s.editor.drawn s.width s.height).regions
        input := (s.editor.drawn s.width s.height).input
        output := (s.editor.drawn s.width s.height).output } := by
    simp only [Editor.drawn, hinput, houtput]
  rw [hdrawn, ← hinput, ← houtput, ← hregions] at hparts
  exact hparts

end Runpad.Session
