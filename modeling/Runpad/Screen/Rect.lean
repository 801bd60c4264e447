/-
  Rectangles of screen cells.

  * `Rect.Contains` says which cells a rectangle holds, and can be decided;
    `Rect.inner` is what is left within a border;
  * coordinates end at `lastCoordinate`, also for a rectangle that reaches
    farther.
-/
namespace Runpad

/-- The place of a cell: its column and its row. -/
structure Place where
  x : Nat
  y : Nat
  deriving DecidableEq, Repr

/-- A rectangle of cells. -/
structure Rect where
  x : Nat
  y : Nat
  width : Nat
  height : Nat
  deriving DecidableEq, Repr, Inhabited

namespace Rect

/-- The coordinate after which there are no more cells. -/
def lastCoordinate : Nat := 65535

/-- The column after the last one. -/
def right (r : Rect) : Nat :=
  min (r.x + r.width) lastCoordinate

/-- The row after the last one. -/
def bottom (r : Rect) : Nat :=
  min (r.y + r.height) lastCoordinate

/-- The cell is one of the rectangle. -/
def Contains (r : Rect) (p : Place) : Prop :=
  (r.x ≤ p.x ∧ p.x < r.right) ∧ r.y ≤ p.y ∧ p.y < r.bottom

instance (r : Rect) (p : Place) : Decidable (r.Contains p) :=
  inferInstanceAs (Decidable (_ ∧ _))

/-- Whether the rectangle has no cell. -/
def isEmpty (r : Rect) : Bool :=
  r.width = 0 || r.height = 0

/-- What is left of a rectangle within its border, which takes a cell on each
    side. -/
def inner (r : Rect) : Rect :=
  let x := min (r.x + 1) r.right
  let y := min (r.y + 1) r.bottom
  ⟨x, y, r.width - 2, r.height - 2⟩

end Rect

end Runpad
