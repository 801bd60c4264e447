/-
  Pictures on a screen of cells.

  * `Cell` is what a cell shows, `Style` a change of its colours;
  * `Stroke` is one step of drawing, and `Stroke.over` says what it makes of a
    cell;
  * `Picture.cell` is a cell after all strokes, the later ones on top, and
    `Picture.shown` what is seen of it: the second column of a wide symbol
    belongs to the symbol;
  * `edge_none`: a frame leaves the inside of its rectangle alone.
-/
import Runpad.Screen.Rect
import Runpad.Text.Width

namespace Runpad

/-! ## Cells -/

/-- The colours in use; `reset` is the one that the terminal has by itself. -/
inductive Color where
  | reset
  | white
  | black
  | cyan
  | darkGray
  | gray
  | red
  | yellow
  | green
  deriving DecidableEq, Repr

/-- A change of colours; what is not named stays. -/
structure Style where
  foreground : Option Color := none
  background : Option Color := none
  bold : Bool := false
  deriving DecidableEq, Repr

/-- What a cell of the screen shows. -/
structure Cell where
  symbol : Text := [' ']
  foreground : Color := .reset
  background : Color := .reset
  bold : Bool := false
  deriving DecidableEq, Repr

namespace Cell

/-- An empty cell. -/
def blank : Cell := {}

/-- The cell in other colours. -/
def restyle (style : Style) (c : Cell) : Cell :=
  { c with
    foreground := style.foreground.getD c.foreground
    background := style.background.getD c.background
    bold := c.bold || style.bold }

/-- The cell with another symbol, in other colours. -/
def put (symbol : Text) (style : Style) (c : Cell) : Cell :=
  { c with symbol }.restyle style

@[simp] theorem symbol_restyle (style : Style) (c : Cell) :
    (c.restyle style).symbol = c.symbol := rfl

@[simp] theorem symbol_put (symbol : Text) (style : Style) (c : Cell) :
    (c.put symbol style).symbol = symbol := rfl

end Cell

/-! ## Strokes -/

/-- What is done to one cell of a text. -/
inductive Mark where
  | keep
  | erase
  | put (symbol : Text) (style : Style)
  deriving DecidableEq, Repr

/-- The cell after a mark was made on it. -/
def Mark.over (c : Cell) : Mark → Cell
  | .keep => c
  | .erase => .blank
  | .put symbol style => c.put symbol style

/-- A step of drawing. -/
inductive Stroke where
  /-- Colours all cells of a rectangle. -/
  | restyle (area : Rect) (style : Style)
  /-- Empties all cells of a rectangle. -/
  | erase (area : Rect)
  /-- Draws lines along the sides of a rectangle. -/
  | frame (area : Rect) (style : Style)
  /-- Makes rows of marks, from a place to the right and downwards. -/
  | write (start : Place) (rows : List (List Mark))
  deriving Repr

/-- The part of a frame that is at a place; corners come before sides. -/
def edge? (area : Rect) (p : Place) : Option Char :=
  let left := p.x = area.x
  let right := p.x + 1 = area.right
  let top := p.y = area.y
  let bottom := p.y + 1 = area.bottom
  if ¬ area.Contains p then none
  else if left ∧ top then some '┌'
  else if left ∧ bottom then some '└'
  else if right ∧ top then some '┐'
  else if right ∧ bottom then some '┘'
  else if bottom then some '─'
  else if right then some '│'
  else if top then some '─'
  else if left then some '│'
  else none

/-- The mark at a place among rows of marks that begin at `start`. -/
def markAt (start : Place) (rows : List (List Mark)) (p : Place) : Mark :=
  if start.x ≤ p.x ∧ start.y ≤ p.y then
    ((rows[p.y - start.y]?).bind (·[p.x - start.x]?)).getD .keep
  else .keep

/-- What a stroke makes of the cell at a place. -/
def Stroke.over (p : Place) (c : Cell) : Stroke → Cell
  | .restyle area style => if area.Contains p then c.restyle style else c
  | .erase area => if area.Contains p then .blank else c
  | .frame area style =>
    match edge? area p with
    | some part => c.put [part] style
    | none => c
  | .write start rows => (markAt start rows p).over c

/-- A frame leaves the inside of its rectangle alone. -/
theorem edge_none {area : Rect} {p : Place} (h : area.inner.Contains p)
    (hx : area.x + area.width ≤ Rect.lastCoordinate)
    (hy : area.y + area.height ≤ Rect.lastCoordinate) : edge? area p = none := by
  obtain ⟨⟨h1, h2⟩, h3, h4⟩ := h
  simp only [Rect.inner, Rect.right, Rect.bottom] at h1 h2 h3 h4
  have n1 : ¬ p.x = area.x := by omega
  have n2 : ¬ p.x + 1 = area.right := by simp only [Rect.right]; omega
  have n3 : ¬ p.y = area.y := by omega
  have n4 : ¬ p.y + 1 = area.bottom := by simp only [Rect.bottom]; omega
  simp [edge?, n1, n2, n3, n4]

/-! ## Pictures -/

/-- What is drawn on a screen, and where its cursor is, if it is seen. -/
structure Picture where
  strokes : List Stroke
  cursor : Option Place
  deriving Repr

/-- The cell at a place after a run of strokes on an empty screen. -/
def cellAfter (strokes : List Stroke) (p : Place) : Cell :=
  strokes.foldl (Stroke.over p) .blank

theorem cellAfter_concat (strokes : List Stroke) (stroke : Stroke) (p : Place) :
    cellAfter (strokes ++ [stroke]) p = stroke.over p (cellAfter strokes p) := by
  simp [cellAfter]

namespace Picture

/-- The cell at a place. -/
def cell (picture : Picture) (p : Place) : Cell :=
  cellAfter picture.strokes p

/-- Whether the symbol on the left covers the cell at a place. -/
def isCovered (picture : Picture) (p : Place) : Bool :=
  match p.x with
  | 0 => false
  | x + 1 => 2 ≤ Text.columns (picture.cell ⟨x, p.y⟩).symbol

/-- What is seen at a place. -/
def shown (picture : Picture) (p : Place) : Cell :=
  if picture.isCovered p then .blank else picture.cell p

/-- The rows of a screen of the given size. -/
def rows (picture : Picture) (width height : Nat) : List (List Cell) :=
  (List.range height).map fun y => (List.range width).map fun x => picture.shown ⟨x, y⟩

end Picture

end Runpad
