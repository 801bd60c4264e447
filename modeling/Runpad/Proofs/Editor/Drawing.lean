/-
  Where drawing puts the windows and the cursor.

  Drawing finds the windows onto the texts, the columns that they leave out, and
  the place of the cursor.  A coordinate of the screen has 16 bits; here it is
  tested that every number that becomes one fits.

  * `Grid.draw` draws a region of text, `PromptLine.draw` a prompt, `Parts.draw`
    all of it;
  * `draw_parts`: drawing goes through, and finds the windows and the cursor of
    the picture.
-/
import Mathlib
import Runpad.Editor.Picture
import Runpad.Proofs.Editor.Touches
import Runpad.Proofs.Screen.Panes

namespace Runpad

/-- A number as a coordinate. -/
def coordinate? (n : Nat) : Option Nat :=
  if n ≤ Rect.lastCoordinate then some n else none

theorem coordinate?_of_le {n : Nat} (h : n ≤ Rect.lastCoordinate) : coordinate? n = some n :=
  if_pos h

/-! ## Drawing -/

/-- Draws a region of text in an area: the text with its window, the columns that
    the window leaves out, and the place of the cursor if the region shows it. -/
def Grid.draw (area : Rect) (active : Bool) (g : Grid) : Option (Grid × Nat × Option Place) := do
  let inner := area.inner
  let g ← g.scroll inner.width inner.height
  let skip ← coordinate? (min g.firstColumn Rect.lastCoordinate)
  if active && !inner.isEmpty then
    let column ← g.displayColumn
    let x ← coordinate? (inner.x + (column - g.firstColumn))
    let y ← coordinate? (inner.y + (g.row - g.firstRow))
    some (g, skip, some ⟨x, y⟩)
  else some (g, skip, none)

/-- Draws a prompt: the columns that its window leaves out, and the place of the
    cursor. -/
def PromptLine.draw (screen : Rect) (l : PromptLine) : Option (Nat × Option Place) := do
  let path ← Utf8.decode? l.path
  let inner := (promptRect screen).inner
  let column := Text.columns (path.take l.cursor)
  let scrolled := column - (inner.width - 1)
  let skip ← coordinate? (min scrolled Rect.lastCoordinate)
  if inner.isEmpty then some (skip, none)
  else
    let x ← minus? (inner.x + column) scrolled
    let x ← coordinate? x
    some (skip, some ⟨x, inner.y⟩)

/-- Draws the texts of an editor: the texts with their windows, and the place of
    the cursor. -/
def Parts.draw (width height : Nat) (focus : Focus) (b : Parts) :
    Option (Parts × Option Place) := do
  let screen : Rect := ⟨0, 0, width, height⟩
  let regions := layout screen
  let (input, _, inInput) ← b.input.draw regions.input (focus = .input && b.prompt.isNone)
  let (output, _, inOutput) ← b.output.draw regions.output (focus = .output && b.prompt.isNone)
  match b.prompt with
  | some l =>
    let (_, inPrompt) ← l.draw screen
    some ({ b with input, output }, inPrompt)
  | none => some ({ b with input, output }, inInput <|> inOutput)

/-! ## Rectangles on the screen -/

variable (width height : Nat)

theorem fits_promptRect (hwidth : width ≤ Rect.lastCoordinate)
    (hheight : height ≤ Rect.lastCoordinate) : (promptRect ⟨0, 0, width, height⟩).Fits := by
  constructor <;> simp only [promptRect] <;> omega

/-! ## Drawing goes through -/

/-- The cursor is in the window. -/
theorem scroll_shows (a : TextArea) (hwidth : 0 < width) (hheight : 0 < height) :
    (a.scroll width height).displayColumn - (a.scroll width height).firstColumn < width ∧
      (a.scroll width height).row - (a.scroll width height).firstRow < height := by
  have hcolumn := lt_follow a.firstColumn width a.displayColumn
  have hrow := lt_follow a.firstRow height a.row
  rw [max_eq_left hwidth] at hcolumn
  rw [max_eq_left hheight] at hrow
  exact ⟨Nat.sub_lt_left_of_lt_add (follow_le _ _ _) hcolumn,
    Nat.sub_lt_left_of_lt_add (follow_le _ _ _) hrow⟩

/-- A region of text is drawn. -/
theorem draw_grid {area : Rect} (hfits : area.Fits) (active : Bool) (a : TextArea) :
    a.grid.draw area active =
      some ((a.scroll area.inner.width area.inner.height).grid,
        min (a.scroll area.inner.width area.inner.height).firstColumn Rect.lastCoordinate,
        if active then areaCursor area (a.scroll area.inner.width area.inner.height)
        else none) := by
  have hshown := scroll_shows area.inner.width area.inner.height a
  have hscroll : a.grid.scroll area.inner.width area.inner.height =
      some (a.scroll area.inner.width area.inner.height).grid :=
    TextArea.onGrid_grid a (Editor.sized_window hfits)
  simp only [Grid.draw, hscroll, Option.bind_eq_bind, Option.bind_some]
  generalize a.scroll area.inner.width area.inner.height = b at hshown
  have hskip : coordinate? (min b.grid.firstColumn Rect.lastCoordinate) =
      some (min b.firstColumn Rect.lastCoordinate) :=
    coordinate?_of_le (Nat.min_le_right _ _)
  simp only [hskip, TextArea.displayColumn_grid, Option.bind_some]
  cases active with
  | false => rfl
  | true =>
    unfold areaCursor
    cases hempty : area.inner.isEmpty with
    | true => rfl
    | false =>
      obtain ⟨hwidth, hheight⟩ := Rect.isEmpty_eq_false_iff.1 hempty
      obtain ⟨hcolumn, hrow⟩ := hshown hwidth hheight
      have hx : coordinate? (area.inner.x + (b.displayColumn - b.grid.firstColumn)) =
          some (area.inner.x + (b.displayColumn - b.firstColumn)) :=
        coordinate?_of_le (hfits.inner_x hcolumn)
      have hy : coordinate? (area.inner.y + (b.grid.row - b.grid.firstRow)) =
          some (area.inner.y + (b.row - b.firstRow)) :=
        coordinate?_of_le (hfits.inner_y hrow)
      simp only [hx, hy]
      rfl

/-- A prompt is drawn. -/
theorem draw_line {screen : Rect} (hfits : (promptRect screen).Fits) (p : Prompt) :
    p.line.draw screen =
      some (min (p.scrolled (promptRect screen).inner.width) Rect.lastCoordinate,
        p.place screen) := by
  have hread : Utf8.decode? p.line.path = some p.path := by
    rw [Prompt.line, Utf8.decode?, Utf8.decode_eq_ok_iff.2 rfl]
    rfl
  have hcolumn : Text.columns (p.path.take p.line.cursor) = p.cursorColumn := rfl
  have hplace : p.place screen =
      if (promptRect screen).inner.isEmpty then none
      else some ⟨(promptRect screen).inner.x +
        (p.cursorColumn - p.scrolled (promptRect screen).inner.width),
        (promptRect screen).inner.y⟩ := rfl
  have hscrolled : p.scrolled (promptRect screen).inner.width =
      p.cursorColumn - ((promptRect screen).inner.width - 1) := rfl
  have hskip := coordinate?_of_le (Nat.min_le_right
    (p.scrolled (promptRect screen).inner.width) Rect.lastCoordinate)
  simp only [PromptLine.draw, hread, hcolumn, ← hscrolled, hskip, Option.bind_eq_bind,
    Option.bind_some]
  by_cases hempty : (promptRect screen).inner.isEmpty = true
  · rw [hplace, if_pos hempty, if_pos hempty]
  · obtain ⟨hroom, -⟩ := Rect.isEmpty_eq_false_iff.1 (Bool.not_eq_true _ ▸ hempty)
    have hshown : p.cursorColumn - p.scrolled (promptRect screen).inner.width <
        (promptRect screen).inner.width := by omega
    have hle : p.scrolled (promptRect screen).inner.width ≤ p.cursorColumn := by omega
    have hminus : minus? ((promptRect screen).inner.x + p.cursorColumn)
        (p.scrolled (promptRect screen).inner.width) =
          some ((promptRect screen).inner.x +
            (p.cursorColumn - p.scrolled (promptRect screen).inner.width)) := by
      rw [minus?_of_le (by omega), Nat.add_sub_assoc hle]
    have hx := coordinate?_of_le (hfits.inner_x hshown)
    rw [if_neg hempty, hminus, Option.bind_some, hx, Option.bind_some, hplace, if_neg hempty]

/-- **Drawing goes through**, and finds the windows and the cursor. -/
theorem draw_parts (hwidth : width ≤ Rect.lastCoordinate) (hheight : height ≤ Rect.lastCoordinate)
    (e : Editor) :
    e.parts.draw width height e.focus =
      some ((e.drawn width height).parts, (e.drawn width height).cursor ⟨0, 0, width, height⟩) := by
  have hinput := draw_grid (fit_layout width height).input
    (e.focus = .input && e.parts.prompt.isNone) e.input
  have houtput := draw_grid (fit_layout width height).output
    (e.focus = .output && e.parts.prompt.isNone) e.output
  have hgrids : e.parts.input = e.input.grid ∧ e.parts.output = e.output.grid := ⟨rfl, rfl⟩
  simp only [Parts.draw, hgrids, hinput, houtput, Option.bind_eq_bind, Option.bind_some]
  cases hp : e.prompt with
  | some p =>
    have hprompt : e.parts.prompt = some p.line := by rw [Editor.parts, hp]; rfl
    have hdraw := draw_line (fits_promptRect width height hwidth hheight) p
    simp only [hprompt, hdraw, Option.bind_some]
    simp [Editor.drawn, Editor.parts, Editor.cursor, hp]
  | none =>
    have hprompt : e.parts.prompt = none := by rw [Editor.parts, hp]; rfl
    simp only [hprompt]
    cases hfocus : e.focus <;>
      simp [Editor.drawn, Editor.parts, Editor.cursor, hp, hfocus]

end Runpad
