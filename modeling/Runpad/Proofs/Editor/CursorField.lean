/-
  The cursor stays in its field.

  * `Editor.field` is the rectangle that the cursor belongs to, `Editor.placings` are all
    the places at which a draw puts it;
  * `PlacedIn` says that the cursor is seen if its field has room for it, and that it is
    then in there; `placedIn`: a place counted from the corner of the field is, if it
    is counted within the size of the field;
  * `cursor_in_field`: a draw puts the cursor at no more than one place, in its field, and
    every number on the way to it is a coordinate.
-/
import Mathlib
import Runpad.Proofs.Editor.Drawing
import Runpad.Proofs.Editor.Panes

namespace Runpad

/-! ## Fields -/

/-- The cursor of a field on a screen of the given size. -/
structure PlacedIn (cursor : Option Place) (field : Rect) (width height : Nat) : Prop where
  isSome_iff : cursor.isSome ↔ 0 < field.inner.width ∧ 0 < field.inner.height
  inside : ∀ p, cursor = some p → field.inner.Contains p
  offFrame : ∀ p, cursor = some p → edge? field p = none
  onScreen : ∀ p, cursor = some p → p.x < width ∧ p.y < height
  coordinates : ∀ p, cursor = some p → p.x ≤ Rect.lastCoordinate ∧ p.y ≤ Rect.lastCoordinate

variable {r : Rect} {width height i j : Nat}

/-- A place within the size of a field is in the field, off its frame and on the screen. -/
theorem placedIn (hfits : r.Fits) (hright : r.x + r.width ≤ width)
    (hbottom : r.y + r.height ≤ height)
    (hplace : 0 < r.inner.width → 0 < r.inner.height →
      i < r.inner.width ∧ j < r.inner.height) :
    PlacedIn (if r.inner.isEmpty then none else some ⟨r.inner.x + i, r.inner.y + j⟩)
      r width height := by
  cases hempty : r.inner.isEmpty with
  | true =>
    have hnone : ¬ (0 < r.inner.width ∧ 0 < r.inner.height) := by
      rw [← Rect.isEmpty_eq_false_iff, hempty]
      exact Bool.noConfusion
    exact ⟨iff_of_false Bool.false_ne_true hnone, nofun, nofun, nofun, nofun⟩
  | false =>
    have hroom := Rect.isEmpty_eq_false_iff.mp hempty
    obtain ⟨hi, hj⟩ := hplace hroom.1 hroom.2
    have hinside := hfits.inner_contains hi hj
    have hsides := hfits.inner_contains_iff.mp hinside
    dsimp only at hsides
    refine ⟨iff_of_true rfl hroom, ?_, ?_, ?_, ?_⟩
    all_goals
      rintro p ⟨⟩
    · exact hinside
    · exact edge_none hinside hfits.right hfits.bottom
    · dsimp only
      omega
    · exact ⟨hfits.inner_x hi, hfits.inner_y hj⟩

namespace Editor

variable {e : Editor}

/-- The rectangle that the cursor belongs to: the prompt, or else the focused region. -/
def field (screen : Rect) (e : Editor) : Rect :=
  if e.prompt.isSome then promptRect screen else (layout screen).pane e.focus.pane

/-- The places at which a draw puts the cursor, one after the other. -/
def placings (screen : Rect) (e : Editor) : List Place :=
  (if e.isActive .input then areaCursor (layout screen).input e.input else none).toList ++
  (if e.isActive .output then areaCursor (layout screen).output e.output else none).toList ++
  (e.prompt.bind fun p => p.place screen).toList

/-- There is no other place than that of the picture. -/
theorem placings_eq (screen : Rect) (e : Editor) :
    e.placings screen = (e.cursor screen).toList := by
  cases hprompt : e.prompt with
  | some p => simp [placings, cursor, isActive, hprompt]
  | none => cases hfocus : e.focus <;> simp [placings, cursor, isActive, hprompt, hfocus]

/-! ## Regions and prompts -/

/-- The cursor of a drawn region is in its field. -/
theorem placedIn_region (hprompt : e.prompt = none) :
    PlacedIn ((e.drawn width height).cursor ⟨0, 0, width, height⟩)
      ((e.drawn width height).field ⟨0, 0, width, height⟩) width height := by
  have hfits := fits_screen width height e.focus.pane
  obtain ⟨hright, hbottom⟩ := pane_le_screen width height e.focus.pane
  have hfield : (e.drawn width height).field ⟨0, 0, width, height⟩ =
      (layout ⟨0, 0, width, height⟩).pane e.focus.pane := by
    have hnone : (e.drawn width height).prompt = none := hprompt
    rw [field, hnone]
    rfl
  rw [cursor_eq_areaCursor (e := e.drawn width height) hprompt, hfield, focused_drawn,
    focusedRect_drawn]
  exact placedIn hfits hright hbottom (scroll_shows _ _ e.focused)

/-- The cursor of a prompt is in its field. -/
theorem placedIn_prompt {p : Prompt} (hprompt : e.prompt = some p)
    (hwidth : width ≤ Rect.lastCoordinate) (hheight : height ≤ Rect.lastCoordinate) :
    PlacedIn ((e.drawn width height).cursor ⟨0, 0, width, height⟩)
      ((e.drawn width height).field ⟨0, 0, width, height⟩) width height := by
  have hfits := fits_promptRect width height hwidth hheight
  have hsome : (e.drawn width height).prompt = some p := hprompt
  have hcursor : (e.drawn width height).cursor ⟨0, 0, width, height⟩ =
      p.place ⟨0, 0, width, height⟩ := by
    rw [cursor, hsome]
  have hfield : (e.drawn width height).field ⟨0, 0, width, height⟩ =
      promptRect ⟨0, 0, width, height⟩ := by
    rw [field, hsome]
    rfl
  rw [hcursor, hfield]
  refine placedIn (j := 0) hfits ?_ ?_ fun hroom hrows => ⟨?_, hrows⟩
  · simp only [promptRect]
    omega
  · simp only [promptRect]
    omega
  · rw [Prompt.scrolled]
    omega

/-- **The cursor is in its field**: a draw puts it at no more than one place, and there is
    one if and only if the field has room; it is in there, on the screen, and not on the
    frame.  No number on the way to it is out of range. -/
theorem cursor_in_field (e : Editor) (width height : Nat) (hwidth : width ≤ Rect.lastCoordinate)
    (hheight : height ≤ Rect.lastCoordinate) :
    (e.drawn width height).placings ⟨0, 0, width, height⟩ =
      ((e.drawn width height).picture width height).cursor.toList ∧
    PlacedIn ((e.drawn width height).picture width height).cursor
      ((e.drawn width height).field ⟨0, 0, width, height⟩) width height ∧
    e.parts.draw width height e.focus =
      some ((e.drawn width height).parts,
        ((e.drawn width height).picture width height).cursor) := by
  refine ⟨placings_eq _ _, ?_, draw_parts width height hwidth hheight e⟩
  cases hprompt : e.prompt with
  | some p => exact placedIn_prompt hprompt hwidth hheight
  | none => exact placedIn_region hprompt

/-- A prompt with a path that is wider than the screen. -/
def widePath : Editor :=
  { prompt := some (Prompt.start .save (List.replicate 9 '错')) }

theorem widePath_in_field :
    ∃ p, ((widePath.drawn 12 5).picture 12 5).cursor = some p ∧
      (promptRect ⟨0, 0, 12, 5⟩).inner.Contains p ∧ edge? (promptRect ⟨0, 0, 12, 5⟩) p = none ∧
      p.x < 12 ∧ p.y < 5 := by
  obtain ⟨-, hplaced, -⟩ := cursor_in_field widePath 12 5 (by decide) (by decide)
  obtain ⟨p, hp⟩ := Option.isSome_iff_exists.mp (hplaced.isSome_iff.mpr (by decide))
  exact ⟨p, hp, hplaced.inside p hp, hplaced.offFrame p hp, hplaced.onScreen p hp⟩

end Editor

end Runpad
