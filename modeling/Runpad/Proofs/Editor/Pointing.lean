/-
  What the mouse does at a place of the screen.

  * `buttonAt_eq_some_iff` and `regionAt_eq_some_iff`: a place is found in the one part that
    holds it;
  * `Clicked` lists what a click leads to, by the part that holds its place; `clicked_step`
    shows it, and `step_scroll_beside` that a scroll beside the texts leads to nothing;
  * `screen_tiled`: every area is tiled, and so each cell of a screen has one meaning.
-/
import Mathlib
import Runpad.Proofs.Editor.DrawnSessions
import Runpad.Proofs.Editor.Panes
import Runpad.Proofs.Screen.Tiling

namespace Runpad

/-! ## Parts at a place -/

namespace Editor

variable {e : Editor} {area : Rect} {p : Place}

/-- The part of the screen last drawn holds the place. -/
def PaneAt (e : Editor) (a : Pane) (p : Place) : Prop :=
  (e.regions.pane a).Contains p

instance (e : Editor) (a : Pane) (p : Place) : Decidable (e.PaneAt a p) :=
  inferInstanceAs (Decidable ((e.regions.pane a).Contains p))

/-- The part holds the place, and no other part does. -/
structure OnlyPaneAt (e : Editor) (a : Pane) (p : Place) : Prop where
  there : e.PaneAt a p
  only : ∀ b, e.PaneAt b p → b = a

theorem PaneAt.only (hregions : e.regions = layout area) {a : Pane} (h : e.PaneAt a p) :
    e.OnlyPaneAt a p where
  there := h
  only b hb := by
    rw [PaneAt, hregions] at h hb
    exact (paneAt_eq hb).symm.trans (paneAt_eq h)

theorem mem_all (command : Command) : command ∈ Command.all := by
  cases command <;> decide

/-- A button is found at the places that it holds. -/
theorem buttonAt_eq_some_iff (hregions : e.regions = layout area) {command : Command} :
    e.buttonAt p = some command ↔ e.PaneAt (.button command) p := by
  constructor
  · intro h
    simpa [PaneAt, Regions.pane] using List.find?_some h
  · intro h
    have hfound : (e.buttonAt p).isSome := by
      rw [buttonAt, List.find?_isSome]
      exact ⟨command, mem_all command, by simpa [PaneAt, Regions.pane] using h⟩
    obtain ⟨found, hf⟩ := Option.isSome_iff_exists.mp hfound
    have hpane : e.PaneAt (.button found) p := by
      simpa [PaneAt, Regions.pane] using List.find?_some hf
    obtain rfl : found = command := Pane.button.inj ((h.only hregions).only _ hpane)
    exact hf

/-- A region of text is found at the places that it holds. -/
theorem regionAt_eq_some_iff (hregions : e.regions = layout area) {focus : Focus} :
    e.regionAt p = some focus ↔ e.PaneAt focus.pane p := by
  by_cases hinput : e.PaneAt .input p
  · have hfound : e.regionAt p = some .input := if_pos hinput
    rw [hfound]
    cases focus with
    | input => exact iff_of_true rfl hinput
    | output =>
      refine iff_of_false (by simp) fun houtput => ?_
      cases (hinput.only hregions).only _ houtput
  · have hrest : e.regionAt p = if e.PaneAt .output p then some Focus.output else none :=
      if_neg hinput
    rw [hrest]
    cases focus with
    | input => exact iff_of_false (by split_ifs <;> simp) hinput
    | output =>
      split_ifs with houtput
      · exact iff_of_true rfl houtput
      · exact iff_of_false (by simp) houtput

/-- No text is found at the places of the other parts. -/
theorem regionAt_eq_none (hregions : e.regions = layout area) {a : Pane} (h : e.PaneAt a p)
    (ha : ∀ focus : Focus, focus.pane ≠ a) : e.regionAt p = none := by
  rw [Option.eq_none_iff_forall_ne_some]
  intro focus hfocus
  exact ha focus ((h.only hregions).only _ ((regionAt_eq_some_iff hregions).mp hfocus))

/-! ## Clicks and scrolls -/

theorem scrollAt_region {focus : Focus} (hregion : e.regionAt p = some focus)
    (move : TextArea → TextArea) : e.scrollAt p move = { e with focus }.mapFocused move := by
  rw [scrollAt, hregion]

theorem scrollAt_nowhere (hregion : e.regionAt p = none) (move : TextArea → TextArea) :
    e.scrollAt p move = e := by
  rw [scrollAt, hregion]

/-- A click at a place where no button is only moves the focus. -/
theorem handle_click (hr : e.AtRest) (hbutton : e.buttonAt p = none) (store : Store) (now : Nat)
    (d : Disk) :
    e.handle store now (.mouse (.press .left) p) d = (.proceed, e.scrollAt p id, d) := by
  simp [handle, mouse, click, hr.prompt, hr.help, hbutton]

theorem handle_scroll_nowhere (hregion : e.regionAt p = none) {action : MouseAction}
    (h : action = .scrollUp ∨ action = .scrollDown) (store : Store) (now : Nat) (d : Disk) :
    e.handle store now (.mouse action p) d = (.proceed, e, d) := by
  rcases h with rfl | rfl <;> simp [handle, mouse, scrollAt_nowhere hregion]

end Editor

namespace Session

open Editor

variable {σ : Type} {remote : Remote σ} {store : Store} {s s' : Session σ} {p : Place}

/-! ## The meaning of a place -/

/-- What a click at a place leads to, by the part of the screen that is there. -/
inductive Clicked (remote : Remote σ) (s : Session σ) (p : Place) : Step σ → Prop
  /-- The button is pressed. -/
  | button {command : Command} : s.editor.OnlyPaneAt (.button command) p →
      Clicked remote s p
        { during := (s.execute remote command).1, next := some (s.execute remote command).2.draw }
  /-- The text gets the focus, and nothing else changes. -/
  | region {focus : Focus} : s.editor.OnlyPaneAt focus.pane p →
      Clicked remote s p { next := some { s with editor := { s.editor with focus } } }
  | nowhere : (∀ command, ¬ s.editor.PaneAt (.button command) p) →
      (∀ focus : Focus, ¬ s.editor.PaneAt focus.pane p) →
      Clicked remote s p { next := some s }

/-- An action of the mouse that leaves the texts and the disk is over at once. -/
theorem step_mouse {e : Editor} {action : MouseAction} {now : Nat}
    (h : s.editor.handle store now (.mouse action p) s.disk = (.proceed, e, s.disk))
    (hdrawn : Drawn { s with editor := e }) :
    s.step remote store now (.mouse action p) = { next := some { s with editor := e } } := by
  rw [step_proceed h]
  exact congrArg (fun next => ({ next := some next } : Step σ)) hdrawn.draw

theorem clicked_step (hdrawn : Drawn s) (hr : s.editor.AtRest) (now : Nat) :
    Clicked remote s p (s.step remote store now (.mouse (.press .left) p)) := by
  have hregions := hdrawn.regions
  cases hbutton : s.editor.buttonAt p with
  | some command =>
    rw [step_order hr (.button hbutton)]
    exact .button (((buttonAt_eq_some_iff hregions).mp hbutton).only hregions)
  | none =>
    have hclick := handle_click hr hbutton store now s.disk
    cases hregion : s.editor.regionAt p with
    | some focus =>
      rw [scrollAt_region hregion, mapFocused_id] at hclick
      rw [step_mouse hclick (hdrawn.congr rfl rfl rfl)]
      exact .region (((regionAt_eq_some_iff hregions).mp hregion).only hregions)
    | none =>
      rw [scrollAt_nowhere hregion] at hclick
      rw [step_mouse hclick hdrawn]
      refine .nowhere (fun command h => ?_) fun focus h => ?_
      · rw [(buttonAt_eq_some_iff hregions).mpr h] at hbutton
        cases hbutton
      · rw [(regionAt_eq_some_iff hregions).mpr h] at hregion
        cases hregion

/-- A scroll at a place that belongs to no text changes nothing. -/
theorem step_scroll_beside (hdrawn : Drawn s) {a : Pane} (h : s.editor.PaneAt a p)
    (ha : ∀ focus : Focus, focus.pane ≠ a) {action : MouseAction}
    (hscroll : action = .scrollUp ∨ action = .scrollDown) (now : Nat) :
    s.step remote store now (.mouse action p) = { next := some s } := by
  have hregion := regionAt_eq_none hdrawn.regions h ha
  exact step_mouse (handle_scroll_nowhere hregion hscroll store now s.disk) hdrawn

/-- **The parts tile every area, and so each cell of the screen has one meaning.**  The
    parts of a session are those of the screen last drawn.  A click, while nothing is in
    front of them, presses the one button that holds its place, or gives the focus to the
    one text that does, or changes nothing.  A scroll over a button or the status bar
    changes nothing. -/
theorem screen_tiled (store : Store) :
    (∀ area : Rect, area.Fits → ∃ column, Tiled area column (layout area)) ∧
    ∀ {σ : Type} (remote : Remote σ) (r : σ) (d : Disk) (file : Option Path) (width height : Nat)
      (moments : List Moment) (s : Session σ),
      (start remote r d file width height).play remote store moments = some s →
        s.editor.regions = layout ⟨0, 0, s.width, s.height⟩ ∧
        ∀ (m : Moment) (p : Place),
          (s.editor.AtRest → m.event = .mouse (.press .left) p →
            Clicked remote (s.foundAt m) p (s.stepAt remote store m)) ∧
          ∀ a, s.editor.PaneAt a p → (a = .status ∨ ∃ command, a = .button command) →
            (m.event = .mouse .scrollUp p ∨ m.event = .mouse .scrollDown p) →
              s.stepAt remote store m = { next := some (s.foundAt m) } := by
  refine ⟨fun area h => ⟨buttonColumn area, tiled_layout h⟩, ?_⟩
  intro σ remote r d file width height moments s hplay
  have hdrawn := drawn_play (drawn_start remote r d file width height) hplay
  refine ⟨hdrawn.regions, fun m p => ⟨fun hr hevent => ?_, fun a ha hbeside hevent => ?_⟩⟩
  · have hrest : (s.foundAt m).editor.AtRest := hr
    rw [stepAt, hevent]
    exact clicked_step (hdrawn.foundAt m) hrest m.now
  · have htext : ∀ focus : Focus, focus.pane ≠ a := by
      rintro focus rfl
      cases focus <;> simp [Focus.pane] at hbeside
    have hpane : (s.foundAt m).editor.PaneAt a p := ha
    rcases hevent with hevent | hevent
    · rw [stepAt, hevent]
      exact step_scroll_beside (hdrawn.foundAt m) hpane htext (Or.inl rfl) m.now
    · rw [stepAt, hevent]
      exact step_scroll_beside (hdrawn.foundAt m) hpane htext (Or.inr rfl) m.now

/-- The screen becomes so small that the buttons have to share five rows. -/
def shrunk : List Moment :=
  [⟨0, .resize 25 6, id⟩]

/-- The middle button has a single row there, and the status bar has the last one. -/
theorem shrunk_tiled :
    (⟨3, 5, 17, 4⟩ : Rect).Fits ∧ (∃ column, Tiled ⟨3, 5, 17, 4⟩ column (layout ⟨3, 5, 17, 4⟩)) ∧
    ∃ s, fresh.play absent ⟨['t']⟩ shrunk = some s ∧ s.editor.AtRest ∧
      s.editor.PaneAt (.button .save) ⟨20, 2⟩ ∧ s.editor.PaneAt .status ⟨0, 5⟩ ∧
      Clicked absent (s.foundAt ⟨1, .mouse (.press .left) ⟨20, 2⟩, id⟩) ⟨20, 2⟩
        (s.stepAt absent ⟨['t']⟩ ⟨1, .mouse (.press .left) ⟨20, 2⟩, id⟩) ∧
      s.stepAt absent ⟨['t']⟩ ⟨1, .mouse .scrollUp ⟨0, 5⟩, id⟩ =
        { next := some (s.foundAt ⟨1, .mouse .scrollUp ⟨0, 5⟩, id⟩) } := by
  have hfits : (⟨3, 5, 17, 4⟩ : Rect).Fits := ⟨by decide, by decide⟩
  have hshown : (fresh.play absent ⟨['t']⟩ shrunk).map (fun s =>
      (s.editor.prompt, s.editor.help, decide (s.editor.PaneAt (.button .save) ⟨20, 2⟩),
        decide (s.editor.PaneAt .status ⟨0, 5⟩))) = some (none, false, true, true) := by
    decide
  obtain ⟨s, hplay, hs⟩ := Option.map_eq_some_iff.1 hshown
  simp only [Prod.mk.injEq, decide_eq_true_eq] at hs
  obtain ⟨hprompt, hhelp, hsave, hstatus⟩ := hs
  obtain ⟨htiled, hplaces⟩ := screen_tiled ⟨['t']⟩
  obtain ⟨-, hmeaning⟩ := hplaces absent () ⟨[], []⟩ none 60 12 shrunk s hplay
  exact ⟨hfits, htiled _ hfits, s, hplay, ⟨hprompt, hhelp⟩, hsave, hstatus,
    (hmeaning _ ⟨20, 2⟩).1 ⟨hprompt, hhelp⟩ rfl,
    (hmeaning _ ⟨0, 5⟩).2 .status hstatus (Or.inl rfl) (Or.inl rfl)⟩

end Session

end Runpad
