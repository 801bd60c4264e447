/-
  A text area as rows of bytes.

  A `Grid` has its lines in one list, each as its bytes, and the cursor as a row
  and a column.  Every access to a line, every cut of its bytes, every subtraction
  and every sum of a place and a size is tested here: an operation on a grid has no
  result when it would leave the list, split a character, go below zero or leave a
  word of 64 bits.

  Places and sizes are natural numbers, and a text may be of any length.  A text in
  memory has less than `memoryBound` of anything, so that a place and one more, or a
  place and a size below the bound, have a sum that fits in a word.

  * `Operation.onGrid` are the operations of a text area, done on a grid;
    `Operation.Sized` are those whose sizes are below the bound;
  * `TextArea.grid` is the grid of an area; `Grid.Sound` says that the cursor is
    in the text and that the lines are texts without a line feed;
    `sound_iff`: such are the grids of tidy areas and no others;
  * `onGrid_grid`: on the grid of an area every operation that is sized goes through,
    and gives the grid of what it makes of the area; `eq_grid_of_onGrid`: nothing else
    comes of an operation that goes through; `Grid.Sound.exists_onGrid`: from a sound
    grid every operation that is sized leads to a sound one.
-/
import Mathlib
import Runpad.Proofs.Text.Boundary
import Runpad.Proofs.TextArea.Flat

namespace Runpad

/-! ## Tested arithmetic -/

/-- No text in memory has as many bytes, and none as many lines, characters or
    columns. -/
def memoryBound : Nat := 2 ^ 63

/-- The sum of a place in a text and a size.  The place is below the bound, as every
    text is, and if the size is so too the sum fits in a word. -/
def plus? (place size : Nat) : Option Nat :=
  if size < memoryBound then some (place + size) else none

theorem plus?_of_lt {place size : Nat} (h : size < memoryBound) :
    plus? place size = some (place + size) :=
  if_pos h

theorem plus?_eq_some_iff {place size sum : Nat} :
    plus? place size = some sum ↔ size < memoryBound ∧ place + size = sum := by
  rw [plus?, Option.ite_none_right_eq_some, Option.some.injEq]

/-- A size is taken as at least one. -/
theorem max_one_lt {size : Nat} (h : size < memoryBound) : max size 1 < memoryBound :=
  max_lt h (by decide)

/-- A difference that may not be below zero. -/
def minus? (m n : Nat) : Option Nat :=
  if n ≤ m then some (m - n) else none

theorem minus?_of_le {m n : Nat} (h : n ≤ m) : minus? m n = some (m - n) :=
  if_pos h

theorem minus?_one {m n : Nat} (h : m = n + 1) : minus? m 1 = some n := by
  rw [minus?_of_le (by omega), h, Nat.add_sub_cancel]

/-- Lines of bytes with a cursor, and the row and column at which their window
    starts. -/
structure Grid where
  lines : List Bytes
  row : Nat
  column : Nat
  firstRow : Nat
  firstColumn : Nat
  deriving DecidableEq, Repr

namespace Grid

/-! ## Edits -/

/-- The bytes of the cursor's line. -/
def line (g : Grid) : Option Bytes :=
  g.lines[g.row]?

/-- The grid with other bytes in the cursor's line. -/
def withLine (line : Bytes) (g : Grid) : Grid :=
  { g with lines := g.lines.set g.row line }

/-- The lines with one more at a row; the row may be the one after the last. -/
def putLine (row : Nat) (line : Bytes) (lines : List Bytes) : Option (List Bytes) :=
  if row ≤ lines.length then some (lines.insertIdx row line) else none

/-- Takes a line out. -/
def takeLine (row : Nat) (lines : List Bytes) : Option (Bytes × List Bytes) := do
  let line ← lines[row]?
  some (line, lines.eraseIdx row)

/-- A text with the cursor and the window at its start. -/
def ofText (t : Text) : Grid :=
  ⟨(Text.lines t).map Utf8.encode, 0, 0, 0, 0⟩

def breakLine (g : Grid) : Option Grid := do
  let line ← g.line
  let (start, rest) ← Utf8.splitAt (Utf8.byteIndex line g.column) line
  let lines ← putLine (g.row + 1) rest (g.withLine start).lines
  some { g with lines, row := g.row + 1, column := 0 }

def insert (c : Char) (g : Grid) : Option Grid :=
  if c = '\n' then g.breakLine
  else do
    let line ← g.line
    let line ← Utf8.insertAt c (Utf8.byteIndex line g.column) line
    some { g.withLine line with column := g.column + 1 }

def insertAll (t : Text) (g : Grid) : Option Grid :=
  t.foldlM (fun g c => g.insert c) g

def backspace (g : Grid) : Option Grid :=
  if 0 < g.column then do
    let line ← g.line
    let column ← minus? g.column 1
    let line ← Utf8.removeAt (Utf8.byteIndex line column) line
    some { g.withLine line with column }
  else if 0 < g.row then do
    let (line, lines) ← takeLine g.row g.lines
    let row ← minus? g.row 1
    let above ← lines[row]?
    some { g with lines := lines.set row (above ++ line), row, column := Utf8.count above }
  else some g

def delete (g : Grid) : Option Grid := do
  let line ← g.line
  if g.column < Utf8.count line then
    let line ← Utf8.removeAt (Utf8.byteIndex line g.column) line
    some (g.withLine line)
  else if g.row + 1 < g.lines.length then
    let (next, lines) ← takeLine (g.row + 1) g.lines
    let line ← lines[g.row]?
    some { g with lines := lines.set g.row (line ++ next) }
  else some g

/-! ## Moves -/

def moveLeft (g : Grid) : Option Grid :=
  if 0 < g.column then do
    let column ← minus? g.column 1
    some { g with column }
  else if 0 < g.row then do
    let row ← minus? g.row 1
    let line ← g.lines[row]?
    some { g with row, column := Utf8.count line }
  else some g

def moveRight (g : Grid) : Option Grid := do
  let line ← g.line
  if g.column < Utf8.count line then some { g with column := g.column + 1 }
  else if g.row + 1 < g.lines.length then some { g with row := g.row + 1, column := 0 }
  else some g

def toLineStart (g : Grid) : Grid :=
  { g with column := 0 }

def toLineEnd (g : Grid) : Option Grid := do
  let line ← g.line
  some { g with column := Utf8.count line }

/-- To a row, and no farther than the end of its line. -/
def toRow (row : Nat) (g : Grid) : Option Grid := do
  let line ← g.lines[row]?
  some { g with row, column := min g.column (Utf8.count line) }

def moveUp (g : Grid) : Option Grid :=
  if 0 < g.row then do
    let row ← minus? g.row 1
    g.toRow row
  else some g

def moveDown (g : Grid) : Option Grid :=
  if g.row + 1 < g.lines.length then g.toRow (g.row + 1) else some g

def pageUp (rows : Nat) (g : Grid) : Option Grid :=
  g.toRow (g.row - max rows 1)

def pageDown (rows : Nat) (g : Grid) : Option Grid := do
  let row ← plus? g.row (max rows 1)
  let last ← minus? g.lines.length 1
  g.toRow (min row last)

/-! ## The window -/

/-- The screen column of the cursor: the width of the line before it. -/
def displayColumn (g : Grid) : Option Nat := do
  let line ← g.line
  let start ← Utf8.before (Utf8.byteIndex line g.column) line
  some (Text.columns start)

/-- The start of a window that holds a place. -/
def follow (start size place : Nat) : Option Nat :=
  let size := max size 1
  if place < start then some place
  else do
    let stop ← plus? start size
    if stop ≤ place then minus? (place + 1) size else some start

def scroll (width height : Nat) (g : Grid) : Option Grid := do
  let firstRow ← follow g.firstRow height g.row
  let column ← g.displayColumn
  let firstColumn ← follow g.firstColumn width column
  some { g with firstRow, firstColumn }

end Grid

/-! ## All operations -/

namespace TextArea

/-- Does an operation on a grid. -/
def Operation.onGrid (g : Grid) : Operation → Option Grid
  | .setText t => some (.ofText t)
  | .clear => some (.ofText [])
  | .insert c => g.insert c
  | .paste t => g.insertAll (Text.unifyBreaks t)
  | .breakLine => g.breakLine
  | .insertTab => g.insertAll tabStop
  | .backspace => g.backspace
  | .delete => g.delete
  | .moveLeft => g.moveLeft
  | .moveRight => g.moveRight
  | .moveUp => g.moveUp
  | .moveDown => g.moveDown
  | .toLineStart => some g.toLineStart
  | .toLineEnd => g.toLineEnd
  | .pageUp rows => g.pageUp rows
  | .pageDown rows => g.pageDown rows
  | .scroll width height => g.scroll width height

/-- The sizes that are added to a place. -/
def Operation.sizes : Operation → List Nat
  | .pageDown rows => [rows]
  | .scroll width height => [width, height]
  | _ => []

/-- The sizes are below the bound. -/
def Operation.Sized (op : Operation) : Prop :=
  ∀ size ∈ op.sizes, size < memoryBound

instance : DecidablePred Operation.Sized := fun op =>
  inferInstanceAs (Decidable (∀ size ∈ op.sizes, size < memoryBound))

theorem Operation.sized_of_nil {op : Operation} (h : op.sizes = []) : op.Sized := by
  rw [Sized, h]
  exact List.forall_mem_nil _

theorem Operation.sized_pageDown {rows : Nat} :
    (Operation.pageDown rows).Sized ↔ rows < memoryBound := by
  simp [Sized, sizes]

theorem Operation.sized_scroll {width height : Nat} :
    (Operation.scroll width height).Sized ↔ width < memoryBound ∧ height < memoryBound := by
  simp [Sized, sizes]

/-- The grid of an area. -/
def grid (a : TextArea) : Grid :=
  ⟨a.lines.map Utf8.encode, a.row, a.column, a.firstRow, a.firstColumn⟩

/-! ## The lines of a grid -/

theorem insertIdx_middle {α : Type} (upper lower : List α) (x : α) :
    (upper ++ lower).insertIdx upper.length x = upper ++ x :: lower := by
  induction upper with
  | nil => rfl
  | cons y upper ih => rw [List.cons_append, List.length_cons, List.insertIdx_succ_cons, ih]; rfl

theorem eraseIdx_middle {α : Type} (upper lower : List α) (x : α) :
    (upper ++ x :: lower).eraseIdx upper.length = upper ++ lower := by
  rw [List.eraseIdx_append_of_length_le le_rfl, Nat.sub_self]
  rfl

theorem set_middle {α : Type} (upper lower : List α) (x y : α) :
    (upper ++ x :: lower).set upper.length y = upper ++ y :: lower := by
  rw [List.set_append_right _ _ le_rfl, Nat.sub_self, List.set_cons_zero]

theorem getElem?_middle {α : Type} (upper lower : List α) (x : α) :
    (upper ++ x :: lower)[upper.length]? = some x := by
  rw [List.getElem?_append_right le_rfl, Nat.sub_self, List.getElem?_cons_zero]

theorem takeLine_middle (upper lower : List Bytes) (line : Bytes) :
    Grid.takeLine upper.length (upper ++ line :: lower) = some (line, upper ++ lower) := by
  rw [Grid.takeLine, getElem?_middle, eraseIdx_middle]
  rfl

variable (a : TextArea)

theorem lines_grid : a.grid.lines =
    a.above.reverse.map Utf8.encode ++ Utf8.encode a.line :: a.below.map Utf8.encode := by
  simp [grid, lines]

theorem row_grid : a.grid.row = (a.above.reverse.map Utf8.encode).length := by
  simp [grid, row]

theorem column_grid : a.grid.column = a.before.reverse.length := by
  simp [grid, column]

theorem length_lines_grid : a.grid.lines.length = a.lineCount := by
  rw [grid, List.length_map, length_lines]

theorem line_grid : a.grid.line = some (Utf8.encode a.line) := by
  rw [Grid.line, lines_grid, row_grid, getElem?_middle]

theorem count_line : Utf8.count (Utf8.encode a.line) = a.grid.column + a.after.length := by
  rw [Utf8.count_encode, column_grid, line, List.length_append]

/-- The place of the cursor in the bytes of its line. -/
theorem byteIndex_line : Utf8.byteIndex (Utf8.encode a.line) a.grid.column =
    (Utf8.encode a.before.reverse).length := by
  rw [column_grid, line, Utf8.byteIndex_encode]

/-- The lines after an edit within the cursor's line. -/
theorem withLine_grid (before after : Text) :
    a.grid.withLine (Utf8.encode (before.reverse ++ after)) =
      { ({ a with before, after } : TextArea).grid with column := a.grid.column } := by
  rw [Grid.withLine, row_grid, lines_grid, set_middle]
  simp [grid, lines, line, row]

/-! ## Edits -/

theorem breakLine_grid : a.grid.breakLine = some a.breakLine.grid := by
  have hsplit : Utf8.splitAt (Utf8.byteIndex (Utf8.encode a.line) a.grid.column)
      (Utf8.encode a.line) = some (Utf8.encode a.before.reverse, Utf8.encode a.after) := by
    rw [byteIndex_line, line, Utf8.splitAt_encode]
  have hput : Grid.putLine (a.grid.row + 1) (Utf8.encode a.after)
      (a.grid.withLine (Utf8.encode a.before.reverse)).lines = some a.breakLine.grid.lines := by
    have hset : (a.grid.withLine (Utf8.encode a.before.reverse)).lines =
        (a.above.reverse.map Utf8.encode ++ [Utf8.encode a.before.reverse]) ++
          a.below.map Utf8.encode := by
      rw [Grid.withLine, row_grid, lines_grid, set_middle, List.append_assoc, List.singleton_append]
    have hrow : a.grid.row + 1 =
        (a.above.reverse.map Utf8.encode ++ [Utf8.encode a.before.reverse]).length := by
      rw [row_grid, List.length_append, List.length_singleton]
    rw [Grid.putLine, hset, hrow, if_pos (by simp), insertIdx_middle, lines_grid]
    simp [breakLine, line]
  simp only [Grid.breakLine, line_grid, Option.bind_eq_bind, Option.bind_some, hsplit, hput]
  rfl

theorem insert_grid (c : Char) : a.grid.insert c = some (a.insert c).grid := by
  unfold Grid.insert insert
  split_ifs with hc
  · exact breakLine_grid a
  · have hinsert : Utf8.insertAt c (Utf8.byteIndex (Utf8.encode a.line) a.grid.column)
        (Utf8.encode a.line) = some (Utf8.encode ((c :: a.before).reverse ++ a.after)) := by
      rw [byteIndex_line, line, Utf8.insertAt_encode, List.reverse_cons, List.append_assoc,
        List.singleton_append]
    simp only [line_grid, Option.bind_eq_bind, Option.bind_some, hinsert, withLine_grid]
    rfl

theorem insertAll_grid (t : Text) : a.grid.insertAll t = some (a.insertAll t).grid := by
  induction t generalizing a with
  | nil => rfl
  | cons c t ih =>
    have hstep : a.grid.insertAll (c :: t) = (a.grid.insert c).bind (Grid.insertAll t) := rfl
    rw [hstep, insert_grid, Option.bind_some, ih]
    rfl

/-- A character that is taken out of the cursor's line. -/
theorem removeAt_line (before : Text) (c : Char) (after : Text)
    (h : a.line = before.reverse ++ c :: after) :
    Utf8.removeAt (Utf8.byteIndex (Utf8.encode a.line) before.length) (Utf8.encode a.line) =
      some (Utf8.encode (before.reverse ++ after)) := by
  have hplace := Utf8.byteIndex_encode before.reverse (c :: after)
  rw [List.length_reverse] at hplace
  rw [h, hplace, Utf8.removeAt_encode]

theorem backspace_grid : a.grid.backspace = some a.backspace.grid := by
  rcases hbefore : a.before with _ | ⟨c, before⟩
  · have hcolumn : ¬ 0 < a.grid.column := by simp [column_grid, hbefore]
    rcases habove : a.above with _ | ⟨previous, above⟩
    · have hrow : ¬ 0 < a.grid.row := by simp [row_grid, habove]
      rw [Grid.backspace, if_neg hcolumn, if_neg hrow, backspace]
      simp only [hbefore, habove]
    · have hline : a.line = a.after := by rw [line, hbefore]; rfl
      have hrow : a.grid.row = (above.reverse.map Utf8.encode).length + 1 := by
        simp [row_grid, habove]
      have htake : Grid.takeLine a.grid.row a.grid.lines =
          some (Utf8.encode a.after, above.reverse.map Utf8.encode ++
            Utf8.encode previous :: a.below.map Utf8.encode) := by
        have hmiddle := takeLine_middle (above.reverse.map Utf8.encode ++ [Utf8.encode previous])
          (a.below.map Utf8.encode) (Utf8.encode a.after)
        rw [List.length_append, List.length_singleton, ← hrow] at hmiddle
        simpa [lines_grid, habove, hline] using hmiddle
      rw [Grid.backspace, if_neg hcolumn, if_pos (by omega)]
      simp only [htake, minus?_one hrow, Option.bind_eq_bind, Option.bind_some, getElem?_middle,
        set_middle]
      simp [backspace, hbefore, habove, grid, lines, line, row, column, Utf8.encode_append]
  · have hcolumn : a.grid.column = before.length + 1 := by simp [column_grid, hbefore]
    have hremove := removeAt_line a before c a.after (by simp [line, hbefore])
    rw [Grid.backspace, if_pos (by omega)]
    simp only [line_grid, minus?_one hcolumn, hremove, Option.bind_eq_bind, Option.bind_some,
      withLine_grid]
    simp [backspace, hbefore, grid, column]

theorem delete_grid : a.grid.delete = some a.delete.grid := by
  simp only [Grid.delete, line_grid, Option.bind_eq_bind, Option.bind_some, count_line]
  rcases hafter : a.after with _ | ⟨c, after⟩
  · have hline : a.line = a.before.reverse := by rw [line, hafter, List.append_nil]
    rw [if_neg (by simp)]
    rcases hbelow : a.below with _ | ⟨next, below⟩
    · have hlast : ¬ a.grid.row + 1 < a.grid.lines.length := by
        rw [length_lines_grid, lineCount, hbelow]
        exact Nat.lt_irrefl _
      rw [if_neg hlast, delete]
      simp only [hafter, hbelow]
    · have hmore : a.grid.row + 1 < a.grid.lines.length := by
        rw [length_lines_grid, lineCount, hbelow, row_grid]
        simp
      have htake : Grid.takeLine (a.grid.row + 1) a.grid.lines =
          some (Utf8.encode next, a.above.reverse.map Utf8.encode ++
            Utf8.encode a.line :: below.map Utf8.encode) := by
        have hmiddle := takeLine_middle (a.above.reverse.map Utf8.encode ++ [Utf8.encode a.line])
          (below.map Utf8.encode) (Utf8.encode next)
        rw [List.length_append, List.length_singleton, ← row_grid] at hmiddle
        simpa [lines_grid, hbelow] using hmiddle
      rw [if_pos hmore]
      simp only [htake, Option.bind_some]
      rw [row_grid]
      simp only [getElem?_middle, set_middle, Option.bind_some]
      simp [delete, hafter, hbelow, grid, lines, line, row, column, Utf8.encode_append]
  · have hremove := removeAt_line a a.before c after (by rw [line, hafter])
    rw [← List.length_reverse, ← column_grid] at hremove
    rw [if_pos (by simp)]
    simp only [hremove, Option.bind_some, withLine_grid]
    simp [delete, hafter, grid, column, row]

/-! ## Moves -/

theorem moveLeft_grid : a.grid.moveLeft = some a.moveLeft.grid := by
  have hlines : a.moveLeft.grid.lines = a.grid.lines := by rw [grid, lines_moveLeft]; rfl
  rcases hbefore : a.before with _ | ⟨c, before⟩
  · have hcolumn : ¬ 0 < a.grid.column := by simp [column_grid, hbefore]
    rcases habove : a.above with _ | ⟨previous, above⟩
    · have hrow : ¬ 0 < a.grid.row := by simp [row_grid, habove]
      rw [Grid.moveLeft, if_neg hcolumn, if_neg hrow, moveLeft]
      simp only [hbefore, habove]
    · have hrow : a.grid.row = above.length + 1 := by simp [row_grid, habove]
      have hprevious : a.grid.lines[above.length]? = some (Utf8.encode previous) := by
        simp [lines_grid, habove]
      rw [Grid.moveLeft, if_neg hcolumn, if_pos (by omega)]
      simp only [minus?_one hrow, hprevious, Option.bind_eq_bind, Option.bind_some,
        Utf8.count_encode]
      rw [← hlines]
      simp [moveLeft, hbefore, habove, grid, row, column]
  · have hcolumn : a.grid.column = before.length + 1 := by simp [column_grid, hbefore]
    rw [Grid.moveLeft, if_pos (by omega)]
    simp only [minus?_one hcolumn, Option.bind_eq_bind, Option.bind_some, ← hlines]
    simp [moveLeft, hbefore, grid, row, column]

theorem moveRight_grid : a.grid.moveRight = some a.moveRight.grid := by
  have hlines : a.moveRight.grid.lines = a.grid.lines := by rw [grid, lines_moveRight]; rfl
  simp only [Grid.moveRight, line_grid, Option.bind_eq_bind, Option.bind_some, count_line]
  rcases hafter : a.after with _ | ⟨c, after⟩
  · rw [if_neg (by simp), length_lines_grid, lineCount]
    rcases hbelow : a.below with _ | ⟨next, below⟩
    · rw [if_neg (by simp [row_grid]), moveRight]
      simp only [hafter, hbelow]
    · rw [if_pos (by simp [row_grid]), ← hlines]
      simp [moveRight, hafter, hbelow, grid, row, column]
  · rw [if_pos (by simp), ← hlines]
    simp [moveRight, hafter, grid, row, column]

theorem toLineStart_grid : a.grid.toLineStart = a.toLineStart.grid := by
  have hlines : a.toLineStart.grid.lines = a.grid.lines := by rw [grid, lines_toLineStart]; rfl
  rw [Grid.toLineStart, ← hlines]
  rfl

theorem toLineEnd_grid : a.grid.toLineEnd = some a.toLineEnd.grid := by
  simp only [Grid.toLineEnd, line_grid, Option.bind_eq_bind, Option.bind_some, Utf8.count_encode]
  rw [grid, grid, lines_toLineEnd]
  simp [toLineEnd, row, column]

/-- The window stays when the cursor goes to a row. -/
theorem window_toRow (row : Nat) :
    (a.toRow row).firstRow = a.firstRow ∧ (a.toRow row).firstColumn = a.firstColumn := by
  unfold toRow
  split <;> exact ⟨rfl, rfl⟩

theorem toRow_grid {row : Nat} (h : row < a.lineCount) :
    a.grid.toRow row = some (a.toRow row).grid := by
  obtain ⟨hlines, hrow, l, hl, hcolumn⟩ := movedTo_toRow h
  obtain ⟨hfirstRow, hfirstColumn⟩ := window_toRow a row
  have hbytes : a.grid.lines[row]? = some (Utf8.encode l) := by
    rw [grid, List.getElem?_map, hl]
    rfl
  simp only [Grid.toRow, hbytes, Option.bind_eq_bind, Option.bind_some, Utf8.count_encode]
  rw [grid, grid, hlines, hrow, hcolumn, hfirstRow, hfirstColumn]

/-- The cursor stays where it is when it goes to its own row. -/
theorem toRow_self : (a.toRow a.row).grid = a.grid := by
  obtain ⟨hlines, hrow, l, hl, hcolumn⟩ := movedTo_toRow (row_lt_lineCount a)
  obtain ⟨hfirstRow, hfirstColumn⟩ := window_toRow a a.row
  have hline : l = a.line := by
    simpa [lines, row] using hl.symm
  have hmin : min a.column l.length = a.column := by
    rw [hline, line, List.length_append, List.length_reverse, column]
    omega
  rw [grid, hlines, hrow, hcolumn, hmin, hfirstRow, hfirstColumn]
  rfl

theorem moveUp_grid : a.grid.moveUp = some a.moveUp.grid := by
  have hlt := row_lt_lineCount a
  have hrow : a.grid.row = a.row := rfl
  unfold Grid.moveUp moveUp
  split_ifs with hpos
  · rw [minus?_of_le (by omega), hrow]
    exact toRow_grid a (by omega)
  · rw [show a.row - 1 = a.row by omega, toRow_self]

theorem moveDown_grid : a.grid.moveDown = some a.moveDown.grid := by
  have hlt := row_lt_lineCount a
  have hrow : a.grid.row = a.row := rfl
  unfold Grid.moveDown moveDown
  rw [length_lines_grid, hrow]
  split_ifs with hmore
  · rw [show min (a.row + 1) (a.lineCount - 1) = a.row + 1 by omega]
    exact toRow_grid a hmore
  · rw [show min (a.row + 1) (a.lineCount - 1) = a.row by omega, toRow_self]

theorem pageUp_grid (rows : Nat) : a.grid.pageUp rows = some (a.pageUp rows).grid := by
  have hlt := row_lt_lineCount a
  have hrow : a.grid.row = a.row := rfl
  rw [Grid.pageUp, hrow]
  exact toRow_grid a (by omega)

theorem pageDown_grid {rows : Nat} (h : rows < memoryBound) :
    a.grid.pageDown rows = some (a.pageDown rows).grid := by
  have hlt := row_lt_lineCount a
  have hrow : a.grid.row = a.row := rfl
  rw [Grid.pageDown, plus?_of_lt (max_one_lt h), length_lines_grid, minus?_of_le (by omega), hrow]
  exact toRow_grid a (by omega)

/-! ## The window -/

theorem displayColumn_grid : a.grid.displayColumn = some a.displayColumn := by
  have hbefore : Utf8.before (Utf8.byteIndex (Utf8.encode a.line) a.grid.column)
      (Utf8.encode a.line) = some a.before.reverse := by
    rw [byteIndex_line, line, Utf8.before_encode]
  simp only [Grid.displayColumn, line_grid, hbefore, Option.bind_eq_bind, Option.bind_some]
  rfl

theorem follow_grid {size : Nat} (h : size < memoryBound) (start place : Nat) :
    Grid.follow start size place = some (follow start size place) := by
  simp only [Grid.follow, follow, plus?_of_lt (max_one_lt h), Option.bind_eq_bind,
    Option.bind_some]
  split_ifs with hbefore hafter
  · rfl
  · rw [minus?_of_le (by omega)]
  · rfl

/-- No other start is found, whatever the size. -/
theorem eq_follow_of_some {start size place next : Nat}
    (h : Grid.follow start size place = some next) : next = follow start size place := by
  by_cases hbefore : place < start
  · rw [Grid.follow, if_pos hbefore, Option.some.injEq] at h
    rw [follow, if_pos hbefore, h]
  · have hsum := h
    rw [Grid.follow, if_neg hbefore] at hsum
    obtain ⟨stop, hstop, -⟩ := Option.bind_eq_some_iff.1 hsum
    have hsize : size < memoryBound :=
      (Nat.le_max_left size 1).trans_lt (plus?_eq_some_iff.1 hstop).1
    rw [follow_grid hsize, Option.some.injEq] at h
    exact h.symm

theorem scroll_grid {width height : Nat} (hwidth : width < memoryBound)
    (hheight : height < memoryBound) :
    a.grid.scroll width height = some (a.scroll width height).grid := by
  simp only [Grid.scroll, follow_grid hwidth, follow_grid hheight, displayColumn_grid,
    Option.bind_eq_bind, Option.bind_some]
  rfl

/-- **Every operation that is sized goes through**, and does what it does to the area. -/
theorem onGrid_grid {op : Operation} (h : op.Sized) :
    op.onGrid a.grid = some (op.apply a).grid := by
  cases op with
  | setText t => rfl
  | clear => rfl
  | insert c => exact insert_grid a c
  | paste t => exact insertAll_grid a _
  | breakLine => exact breakLine_grid a
  | insertTab => exact insertAll_grid a tabStop
  | backspace => exact backspace_grid a
  | delete => exact delete_grid a
  | moveLeft => exact moveLeft_grid a
  | moveRight => exact moveRight_grid a
  | moveUp => exact moveUp_grid a
  | moveDown => exact moveDown_grid a
  | toLineStart => exact congrArg some (toLineStart_grid a)
  | toLineEnd => exact toLineEnd_grid a
  | pageUp rows => exact pageUp_grid a rows
  | pageDown rows => exact pageDown_grid a (Operation.sized_pageDown.1 h)
  | scroll width height =>
    obtain ⟨hwidth, hheight⟩ := Operation.sized_scroll.1 h
    exact scroll_grid a hwidth hheight

/-- Nothing else comes of an operation that goes through, whatever its sizes. -/
theorem eq_grid_of_onGrid {op : Operation} {g : Grid} (h : op.onGrid a.grid = some g) :
    g = (op.apply a).grid := by
  by_cases hsized : op.Sized
  · rw [onGrid_grid a hsized, Option.some.injEq] at h
    exact h.symm
  cases op with
  | pageDown rows =>
    obtain ⟨row, hrow, -⟩ := Option.bind_eq_some_iff.1 h
    have hrows : rows < memoryBound :=
      (Nat.le_max_left rows 1).trans_lt (plus?_eq_some_iff.1 hrow).1
    exact absurd (Operation.sized_pageDown.2 hrows) hsized
  | scroll width height =>
    -- A window that starts behind the cursor goes back to it without a sum.
    obtain ⟨firstRow, hfirstRow, h⟩ := Option.bind_eq_some_iff.1 h
    rw [displayColumn_grid, Option.bind_eq_bind, Option.bind_some] at h
    obtain ⟨firstColumn, hfirstColumn, h⟩ := Option.bind_eq_some_iff.1 h
    cases h
    rw [eq_follow_of_some hfirstRow, eq_follow_of_some hfirstColumn]
    rfl
  | _ => exact absurd (Operation.sized_of_nil rfl) hsized

end TextArea

/-! ## Sound grids -/

/-- There is a line, every line is a text without a line feed, and the cursor is
    on one of its characters or at its end. -/
structure Grid.Sound (g : Grid) : Prop where
  nonempty : g.lines ≠ []
  lines : ∀ line ∈ g.lines, ∃ t, Utf8.decode line = .ok t ∧ '\n' ∉ t
  row : g.row < g.lines.length
  column : ∀ line, g.line = some line → g.column ≤ Utf8.count line

namespace TextArea

theorem Tidy.sound {a : TextArea} (h : a.Tidy) : a.grid.Sound where
  nonempty := by simp [lines_grid]
  lines := by
    intro bytes hmem
    obtain ⟨l, hl, rfl⟩ := List.mem_map.1 hmem
    exact ⟨l, Utf8.decode_eq_ok_iff.2 rfl, tidy_iff.1 h l hl⟩
  row := by
    rw [length_lines_grid]
    exact row_lt_lineCount a
  column := by
    rintro bytes hbytes
    rw [line_grid, Option.some.injEq] at hbytes
    rw [← hbytes, count_line]
    exact Nat.le_add_right _ _

/-- Bytes of texts are the bytes of a list of texts. -/
theorem exists_texts {lines : List Bytes}
    (h : ∀ line ∈ lines, ∃ t, Utf8.decode line = .ok t ∧ '\n' ∉ t) :
    ∃ ts : List Text, lines = ts.map Utf8.encode ∧ ∀ t ∈ ts, '\n' ∉ t := by
  induction lines with
  | nil => exact ⟨[], rfl, by simp⟩
  | cons line lines ih =>
    obtain ⟨⟨t, ht, hfeed⟩, hrest⟩ := List.forall_mem_cons.1 h
    obtain ⟨ts, rfl, hts⟩ := ih hrest
    refine ⟨t :: ts, ?_, List.forall_mem_cons.2 ⟨hfeed, hts⟩⟩
    rw [List.map_cons, Utf8.decode_eq_ok_iff.1 ht]

/-- **The sound grids are those of the tidy areas.** -/
theorem sound_iff {g : Grid} : g.Sound ↔ ∃ a : TextArea, a.Tidy ∧ a.grid = g := by
  constructor
  · rintro ⟨-, htexts, hrow, hcolumn⟩
    obtain ⟨bytes, row, column, firstRow, firstColumn⟩ := g
    obtain ⟨ts, rfl, hfeeds⟩ := exists_texts htexts
    simp only [List.length_map] at hrow
    have hline : (⟨ts.map Utf8.encode, row, column, firstRow, firstColumn⟩ : Grid).line =
        some (Utf8.encode ts[row]) := by
      rw [Grid.line, List.getElem?_map, List.getElem?_eq_getElem hrow]
      rfl
    have hcolumn : column ≤ ts[row].length := by
      rw [← Utf8.count_encode]
      exact hcolumn _ hline
    -- The area looks at the same lines from the cursor.
    let a : TextArea :=
      { above := (ts.take row).reverse
        before := (ts[row].take column).reverse
        after := ts[row].drop column
        below := ts.drop (row + 1)
        firstRow, firstColumn }
    have hlines : a.lines = ts := by
      simp [a, TextArea.lines, TextArea.line]
    refine ⟨a, ?_, ?_⟩
    · rw [tidy_iff, hlines]
      exact hfeeds
    · rw [grid, hlines]
      simp [a, TextArea.row, TextArea.column]
      omega
  · rintro ⟨a, h, rfl⟩
    exact h.sound

end TextArea

namespace Grid

open TextArea

variable {g g' : Grid} {op : Operation}

/-- An operation that goes through leads from a sound grid to a sound one. -/
theorem Sound.onGrid (h : g.Sound) (hop : op.onGrid g = some g') : g'.Sound := by
  obtain ⟨a, htidy, rfl⟩ := sound_iff.1 h
  rw [eq_grid_of_onGrid a hop]
  exact (htidy.apply op).sound

/-- **From a sound grid every operation that is sized leads to a sound one.** -/
theorem Sound.exists_onGrid (h : g.Sound) (hsized : op.Sized) :
    ∃ g', op.onGrid g = some g' ∧ g'.Sound := by
  obtain ⟨a, -, rfl⟩ := sound_iff.1 h
  exact ⟨_, onGrid_grid a hsized, h.onGrid (onGrid_grid a hsized)⟩

end Grid

end Runpad
