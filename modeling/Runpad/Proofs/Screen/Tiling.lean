/-
  The parts of the screen fill it.

  * `Rect.Beside` are rectangles side by side, `Rect.Stacked` rectangles one below the
    other, `Rect.Enclosed` is one that does not stick out of another;
  * `Tiled` says how the parts lie in an area; `tiled_layout`: so they do in every area;
  * `BelowButtons` are the cells that are left free; `contains_paneAt`: every other cell
    belongs to a part.
-/
import Mathlib
import Runpad.Proofs.Screen.Within

namespace Runpad

/-! ## Rows and stacks of rectangles -/

namespace Rect

/-- The rectangles have the same rows; the first one starts at the column `left`, each
    other one where that before it ends, and the last one ends at the column `right`. -/
def Beside (top height : Nat) : Nat → Nat → List Rect → Prop
  | left, right, [] => left = right
  | left, right, r :: later =>
    r.x = left ∧ r.y = top ∧ r.height = height ∧ Beside top height (left + r.width) right later

/-- The rectangles have the same columns; the first one starts at the row `top`, each
    other one where that above it ends, and the last one ends at the row `bottom`. -/
def Stacked (left width : Nat) : Nat → Nat → List Rect → Prop
  | top, bottom, [] => top = bottom
  | top, bottom, r :: lower =>
    r.x = left ∧ r.y = top ∧ r.width = width ∧ Stacked left width (top + r.height) bottom lower

/-- No side of the rectangle is outside of the area, not even if it has no cell. -/
structure Enclosed (r area : Rect) : Prop where
  left : area.x ≤ r.x
  right : r.x + r.width ≤ area.x + area.width
  top : area.y ≤ r.y
  bottom : r.y + r.height ≤ area.y + area.height

variable {r area : Rect}

theorem Enclosed.fits (h : r.Enclosed area) (harea : area.Fits) : r.Fits where
  right := h.right.trans harea.right
  bottom := h.bottom.trans harea.bottom

theorem Fits.width_eq (h : area.Fits) : area.right - area.x = area.width := by
  rw [h.right_eq, Nat.add_sub_cancel_left]

theorem Fits.height_eq (h : area.Fits) : area.bottom - area.y = area.height := by
  rw [h.bottom_eq, Nat.add_sub_cancel_left]

end Rect

/-! ## The parts of an area -/

/-- The parts fill the area: input, output and a column for the buttons stand side by
    side, as wide together as the area; the status bar lies directly below them and ends
    where the area does; the buttons lie in their column, one directly below the other. -/
structure Tiled (area column : Rect) (r : Regions) : Prop where
  row : Rect.Beside area.y column.height area.x (area.x + area.width) [r.input, r.output, column]
  status : Rect.Stacked area.x area.width (area.y + column.height) (area.y + area.height) [r.status]
  buttons : ∃ bottom, bottom ≤ column.y + column.height ∧
    Rect.Stacked column.x column.width column.y bottom (Command.all.map r.button)
  enclosed : ∀ a, (r.pane a).Enclosed area
  /-- No cell belongs to two parts. -/
  apart : ∀ a b p, (r.pane a).Contains p → (r.pane b).Contains p → a = b
  /-- Every cell belongs to a part, or lies in the column below the buttons. -/
  cells : ∀ p, area.Contains p →
    (∃! a, (r.pane a).Contains p) ∨ column.Contains p ∧ ∀ a, ¬ (r.pane a).Contains p

/-- The column of the buttons, with what is below them. -/
def buttonColumn (area : Rect) : Rect :=
  let columns := columnWidths (area.right - area.x)
  ⟨area.x + columns.1 + columns.2.1, area.y, columns.2.2, mainHeight (area.bottom - area.y)⟩

variable {area : Rect} {p : Place}

/-- No part starts before the area does. -/
theorem le_pane (area : Rect) (a : Pane) :
    area.x ≤ ((layout area).pane a).x ∧ area.y ≤ ((layout area).pane a).y := by
  cases a with
  | input | output | status => constructor <;> simp only [Regions.pane, layout_eq] <;> omega
  | button command =>
    cases command <;> constructor <;> simp only [Regions.pane, Regions.button, layout_eq] <;> omega

theorem enclosed_pane (h : area.Fits) (a : Pane) : ((layout area).pane a).Enclosed area := by
  have hx : area.x ≤ Rect.lastCoordinate := (Nat.le_add_right ..).trans h.right
  have hy : area.y ≤ Rect.lastCoordinate := (Nat.le_add_right ..).trans h.bottom
  obtain ⟨hleft, htop⟩ := le_pane area a
  obtain ⟨hright, hbottom⟩ := pane_le hx hy a
  rw [h.right_eq] at hright
  rw [h.bottom_eq] at hbottom
  exact ⟨hleft, hright, htop, hbottom⟩

theorem enclosed_buttonColumn (h : area.Fits) : (buttonColumn area).Enclosed area := by
  have hsum := columnWidths_sum (area.right - area.x)
  have hmain := mainHeight_le (area.bottom - area.y)
  have hwidth := h.width_eq
  have hheight := h.height_eq
  constructor <;> simp only [buttonColumn] <;> omega

/-! ## Cells -/

/-- A cell of the column lies below the buttons, and in none of them. -/
def BelowButtons (area : Rect) (p : Place) : Prop :=
  paneAt area p = .button .open ∧
    area.y + (buttonEdges (mainHeight (area.bottom - area.y))).2.2 ≤ p.y

theorem BelowButtons.column (h : area.Fits) (hp : area.Contains p) (hbelow : BelowButtons area p) :
    (buttonColumn area).Contains p := by
  obtain ⟨hat, -⟩ := hbelow
  have hsum := columnWidths_sum (area.right - area.x)
  have hwidth := h.width_eq
  rw [h.contains_iff] at hp
  rw [((enclosed_buttonColumn h).fits h).contains_iff]
  rw [paneAt] at hat
  split_ifs at hat with hstatus hinput houtput hrun hsave
  · cases hat
  · cases hat
  · simp only [buttonColumn]
    omega

theorem BelowButtons.nowhere (hbelow : BelowButtons area p) (a : Pane) :
    ¬ ((layout area).pane a).Contains p := by
  obtain ⟨hat, hend⟩ := hbelow
  intro ha
  obtain rfl : .button .open = a := hat.symm.trans (paneAt_eq ha)
  obtain ⟨-, hsecond, -⟩ := buttonEdges_le (mainHeight (area.bottom - area.y))
  obtain ⟨-, -, -, hlast⟩ := ha.bounds
  simp only [Regions.pane, Regions.button, layout_eq] at hlast
  omega

/-- All other cells belong to the part that their coordinates tell. -/
theorem contains_paneAt (h : area.Fits) (hp : area.Contains p) (hno : ¬ BelowButtons area p) :
    ((layout area).pane (paneAt area p)).Contains p := by
  have hsum := columnWidths_sum (area.right - area.x)
  have hwidth := h.width_eq
  have hheight := h.height_eq
  rw [h.contains_iff] at hp
  rw [((enclosed_pane h _).fits h).contains_iff]
  rw [BelowButtons, not_and, not_le] at hno
  generalize hat : paneAt area p = a at hno ⊢
  rw [paneAt] at hat
  split_ifs at hat with hstatus hinput houtput hrun hsave <;> subst hat
  all_goals simp only [Regions.pane, Regions.button, layout_eq]
  case neg =>
    have hend := hno rfl
    omega
  all_goals omega

/-- **The parts fill every area**, wherever it lies and however small it is. -/
theorem tiled_layout (h : area.Fits) : Tiled area (buttonColumn area) (layout area) where
  row := by
    have hsum := columnWidths_sum (area.right - area.x)
    have hwidth := h.width_eq
    simp only [Rect.Beside, layout_eq, buttonColumn, true_and]
    omega
  status := by
    have hmain := mainHeight_le (area.bottom - area.y)
    have hwidth := h.width_eq
    have hheight := h.height_eq
    simp only [Rect.Stacked, layout_eq, buttonColumn, true_and]
    omega
  buttons := by
    obtain ⟨hfirst, hsecond, hthird⟩ := buttonEdges_le (mainHeight (area.bottom - area.y))
    refine ⟨area.y + (buttonEdges (mainHeight (area.bottom - area.y))).2.2, ?_, ?_⟩
    · simp only [buttonColumn]
      omega
    · simp only [Command.all, List.map, Regions.button, Rect.Stacked, layout_eq, buttonColumn,
        true_and]
      omega
  enclosed := enclosed_pane h
  apart a b p ha hb := (paneAt_eq ha).symm.trans (paneAt_eq hb)
  cells p hp := by
    by_cases hbelow : BelowButtons area p
    · exact Or.inr ⟨hbelow.column h hp, hbelow.nowhere⟩
    · exact Or.inl ⟨_, contains_paneAt h hp hbelow, fun b hb => (paneAt_eq hb).symm⟩

end Runpad
