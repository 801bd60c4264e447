/-
  The window onto a text area.

  * `displayColumn` is the screen column of the cursor within its line;
  * `follow` moves a window as little as needed to hold a place, `scroll` moves
    the window of an area so that the cursor is in it;
  * `follow_le`, `lt_follow`: the place is in the window; `follow_follow`: a
    second time nothing moves.
-/
import Runpad.Text.Width
import Runpad.TextArea.Basic

namespace Runpad

/-- The start of a window of the given size that holds the place: the old start
    if it does, and else the nearest one that does.  The size is added to the start as
    a natural number; `Grid.follow` tests that a machine word holds the sum. -/
def follow (start size place : Nat) : Nat :=
  let size := max size 1
  if place < start then place else if start + size ≤ place then place + 1 - size else start

theorem follow_le (start size place : Nat) : follow start size place ≤ place := by
  simp only [follow]
  split <;> (try split) <;> omega

theorem lt_follow (start size place : Nat) : place < follow start size place + max size 1 := by
  simp only [follow]
  split <;> (try split) <;> omega

theorem follow_follow (start size place : Nat) :
    follow (follow start size place) size place = follow start size place := by
  have h₁ := follow_le start size place
  have h₂ := lt_follow start size place
  rw [follow]
  split <;> (try split) <;> omega

namespace TextArea

/-- The screen column of the cursor within its line. -/
def displayColumn (a : TextArea) : Nat :=
  Text.columns a.before.reverse

/-- The area with its window, of the given size, around the cursor. -/
def scroll (width height : Nat) (a : TextArea) : TextArea :=
  { a with
    firstRow := follow a.firstRow height a.row
    firstColumn := follow a.firstColumn width a.displayColumn }

@[simp] theorem lines_scroll (width height : Nat) (a : TextArea) :
    (a.scroll width height).lines = a.lines := rfl

end TextArea

end Runpad
