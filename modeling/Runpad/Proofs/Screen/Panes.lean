/-
  The parts of the screen lie side by side.

  * `Rect.Fits` are the rectangles that end where the coordinates do;
  * `Pane` are the six parts, `Regions.pane` says where one is;
  * `paneAt` is the part that a place can belong to, found by comparing its coordinates
    with the sides of the parts; `paneAt_eq`: whatever part holds the place is this one,
    so that no two parts share a cell (`apart`);
  * `pane_le`, `fits_pane`: all parts end where the area and the coordinates do;
    `Regions.Fit` says so of the parts of a screen, `fit_layout` shows it.
-/
import Mathlib
import Runpad.Screen.Layout

namespace Runpad

/-! ## Rectangles on the screen -/

namespace Rect

/-- The rectangle ends before the coordinates do. -/
structure Fits (r : Rect) : Prop where
  right : r.x + r.width ≤ lastCoordinate
  bottom : r.y + r.height ≤ lastCoordinate

variable {r : Rect}

theorem isEmpty_eq_false_iff : r.isEmpty = false ↔ 0 < r.width ∧ 0 < r.height := by
  simp [isEmpty, Nat.pos_iff_ne_zero]

/-- The places within the border of a rectangle that fits are coordinates. -/
theorem Fits.inner_x (h : r.Fits) {n : Nat} (hn : n < r.inner.width) :
    r.inner.x + n ≤ lastCoordinate := by
  have hright := h.right
  simp only [inner] at hn ⊢
  omega

theorem Fits.inner_y (h : r.Fits) {n : Nat} (hn : n < r.inner.height) :
    r.inner.y + n ≤ lastCoordinate := by
  have hbottom := h.bottom
  simp only [inner] at hn ⊢
  omega

end Rect

/-! ## Parts -/

/-- A part of the screen. -/
inductive Pane where
  | input
  | output
  | button (command : Command)
  | status
  deriving DecidableEq, Repr

/-- The place of a part. -/
def Regions.pane (r : Regions) : Pane → Rect
  | .input => r.input
  | .output => r.output
  | .button command => r.button command
  | .status => r.status

/-- All parts end where the coordinates do. -/
def Regions.Fit (r : Regions) : Prop :=
  ∀ a : Pane, (r.pane a).Fits

theorem Regions.Fit.input {r : Regions} (h : r.Fit) : r.input.Fits := h .input

theorem Regions.Fit.output {r : Regions} (h : r.Fit) : r.output.Fits := h .output

/-- The part of an area that a place can belong to. -/
def paneAt (area : Rect) (p : Place) : Pane :=
  let main := mainHeight (area.bottom - area.y)
  let columns := columnWidths (area.right - area.x)
  let edges := buttonEdges main
  if area.y + main ≤ p.y then .status
  else if p.x < area.x + columns.1 then .input
  else if p.x < area.x + columns.1 + columns.2.1 then .output
  else if p.y < area.y + edges.1 then .button .run
  else if p.y < area.y + edges.2.1 then .button .save
  else .button .open

/-! ## Sides -/

variable {area : Rect} {a b : Pane} {p : Place}

/-- A layout by its columns and edges. -/
theorem layout_eq (area : Rect) :
    layout area =
      let main := mainHeight (area.bottom - area.y)
      let columns := columnWidths (area.right - area.x)
      let edges := buttonEdges main
      let button := area.x + columns.1 + columns.2.1
      { input := ⟨area.x, area.y, columns.1, main⟩
        output := ⟨area.x + columns.1, area.y, columns.2.1, main⟩
        runButton := ⟨button, area.y, columns.2.2, edges.1⟩
        saveButton := ⟨button, area.y + edges.1, columns.2.2, edges.2.1 - edges.1⟩
        openButton := ⟨button, area.y + edges.2.1, columns.2.2, edges.2.2 - edges.2.1⟩
        status := ⟨area.x, area.y + main, area.right - area.x, area.bottom - area.y - main⟩ } :=
  rfl

theorem Rect.Contains.bounds {r : Rect} (h : r.Contains p) :
    r.x ≤ p.x ∧ p.x < r.x + r.width ∧ r.y ≤ p.y ∧ p.y < r.y + r.height := by
  obtain ⟨⟨hleft, hright⟩, htop, hbottom⟩ := h
  simp only [Rect.right, Rect.bottom] at hright hbottom
  omega

/-- The buttons end above the status bar, one below the other. -/
theorem buttonEdges_le (height : Nat) :
    (buttonEdges height).1 ≤ (buttonEdges height).2.1 ∧
    (buttonEdges height).2.1 ≤ (buttonEdges height).2.2 ∧
    (buttonEdges height).2.2 ≤ height := by
  simp only [buttonEdges, roundedShare, buttonHeight]
  omega

theorem mainHeight_le (height : Nat) : mainHeight height ≤ height := by
  unfold mainHeight
  split_ifs
  · exact le_rfl
  · exact Nat.sub_le height 1

theorem columnWidths_sum (width : Nat) :
    (columnWidths width).1 + (columnWidths width).2.1 + (columnWidths width).2.2 = width := by
  simp only [columnWidths, columnUnit]
  omega

/-- **A place belongs to no other part** than the one that its coordinates tell. -/
theorem paneAt_eq (h : ((layout area).pane a).Contains p) : paneAt area p = a := by
  obtain ⟨hleft, hright, htop, hbottom⟩ := h.bounds
  obtain ⟨hfirst, hsecond, hthird⟩ := buttonEdges_le (mainHeight (area.bottom - area.y))
  rw [paneAt]
  cases a with
  | input =>
    simp only [Regions.pane, layout_eq] at hright hbottom
    rw [if_neg (by omega), if_pos hright]
  | output =>
    simp only [Regions.pane, layout_eq] at hleft hright hbottom
    rw [if_neg (by omega), if_neg (by omega), if_pos hright]
  | button command =>
    cases command <;> simp only [Regions.pane, Regions.button, layout_eq] at hleft htop hbottom
    · rw [if_neg (by omega), if_neg (by omega), if_neg (by omega), if_pos hbottom]
    · rw [if_neg (by omega), if_neg (by omega), if_neg (by omega), if_neg (by omega),
        if_pos (by omega)]
    · rw [if_neg (by omega), if_neg (by omega), if_neg (by omega), if_neg (by omega),
        if_neg (by omega)]
  | status =>
    simp only [Regions.pane, layout_eq] at htop
    rw [if_pos htop]

/-- Two parts share no cell. -/
theorem apart (hab : a ≠ b) (h : ((layout area).pane a).Contains p) :
    ¬ ((layout area).pane b).Contains p := by
  intro hb
  exact hab ((paneAt_eq h).symm.trans (paneAt_eq hb))

section Sides

variable (hx : area.x ≤ Rect.lastCoordinate) (hy : area.y ≤ Rect.lastCoordinate)
include hx hy

/-- All parts end where the area does. -/
theorem pane_le (a : Pane) :
    ((layout area).pane a).x + ((layout area).pane a).width ≤ area.right ∧
      ((layout area).pane a).y + ((layout area).pane a).height ≤ area.bottom := by
  have hwidth := columnWidths_sum (area.right - area.x)
  have hmain := mainHeight_le (area.bottom - area.y)
  obtain ⟨hfirst, hsecond, hthird⟩ := buttonEdges_le (mainHeight (area.bottom - area.y))
  have hright : area.x ≤ area.right := le_min (Nat.le_add_right _ _) hx
  have hbottom : area.y ≤ area.bottom := le_min (Nat.le_add_right _ _) hy
  cases a with
  | input | output | status => constructor <;> simp only [Regions.pane, layout_eq] <;> omega
  | button command =>
    cases command <;> constructor <;> simp only [Regions.pane, Regions.button, layout_eq] <;> omega

/-- All parts end where the coordinates do. -/
theorem fits_pane (a : Pane) : ((layout area).pane a).Fits where
  right := (pane_le hx hy a).1.trans (Nat.min_le_right ..)
  bottom := (pane_le hx hy a).2.trans (Nat.min_le_right ..)

end Sides

/-- So it is on a screen of any size. -/
theorem fit_layout (width height : Nat) : (layout ⟨0, 0, width, height⟩).Fit :=
  fits_pane (Nat.zero_le _) (Nat.zero_le _)

/-- And before anything was drawn. -/
theorem fit_nowhere : ({} : Regions).Fit := by
  intro a
  cases a with
  | input | output | status => constructor <;> exact Nat.zero_le _
  | button command => cases command <;> constructor <;> exact Nat.zero_le _

end Runpad
