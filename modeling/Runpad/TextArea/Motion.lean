/-
  Moves of the cursor.

  * `moveLeft` and `moveRight` go by one character, over line breaks too;
    `toLineStart` and `toLineEnd` stay on the line;
  * `toRow` goes to another line and keeps the column as far as that line
    reaches; the moves by lines and pages are made of it;
  * `lines_toRow` and its neighbours: no move changes the lines.
-/
import Runpad.TextArea.Basic

namespace Runpad.TextArea

/-- One character back; from the start of a line to the end of the one above. -/
def moveLeft (a : TextArea) : TextArea :=
  match a.before, a.above with
  | c :: before, _ => { a with before := before, after := c :: a.after }
  | [], previous :: above =>
    { a with above := above, before := previous.reverse, after := [], below := a.after :: a.below }
  | [], [] => a

/-- One character on; from the end of a line to the start of the one below. -/
def moveRight (a : TextArea) : TextArea :=
  match a.after, a.below with
  | c :: after, _ => { a with before := c :: a.before, after := after }
  | [], next :: below =>
    { a with above := a.before.reverse :: a.above, before := [], after := next, below := below }
  | [], [] => a

/-- To the start of the line. -/
def toLineStart (a : TextArea) : TextArea :=
  { a with before := [], after := a.line }

/-- To the end of the line. -/
def toLineEnd (a : TextArea) : TextArea :=
  { a with before := a.line.reverse, after := [] }

/-- To the given row, at the same column or at the end of a shorter line; a row
    that does not exist leaves the cursor where it is. -/
def toRow (row : Nat) (a : TextArea) : TextArea :=
  match a.lines.drop row with
  | line :: below =>
    { a with
      above := (a.lines.take row).reverse
      before := (line.take a.column).reverse
      after := line.drop a.column
      below := below }
  | [] => a

/-- One line up. -/
def moveUp (a : TextArea) : TextArea :=
  a.toRow (a.row - 1)

/-- One line down. -/
def moveDown (a : TextArea) : TextArea :=
  a.toRow (min (a.row + 1) (a.lineCount - 1))

/-- So many lines up, at least one. -/
def pageUp (rows : Nat) (a : TextArea) : TextArea :=
  a.toRow (a.row - max rows 1)

/-- So many lines down, at least one.  They are added to the row as a natural number;
    `Grid.pageDown` tests that a machine word holds the sum. -/
def pageDown (rows : Nat) (a : TextArea) : TextArea :=
  a.toRow (min (a.row + max rows 1) (a.lineCount - 1))

/-! ## Moves keep the lines -/

@[simp] theorem lines_moveLeft (a : TextArea) : a.moveLeft.lines = a.lines := by
  unfold moveLeft
  split <;> simp_all [lines, line]

@[simp] theorem lines_moveRight (a : TextArea) : a.moveRight.lines = a.lines := by
  unfold moveRight
  split <;> simp_all [lines, line]

@[simp] theorem lines_toLineStart (a : TextArea) : a.toLineStart.lines = a.lines := by
  simp [toLineStart, lines, line]

@[simp] theorem lines_toLineEnd (a : TextArea) : a.toLineEnd.lines = a.lines := by
  simp [toLineEnd, lines, line]

@[simp] theorem lines_toRow (row : Nat) (a : TextArea) : (a.toRow row).lines = a.lines := by
  unfold toRow
  split
  · next h => simp [lines, line, ← h]
  · rfl

end Runpad.TextArea
