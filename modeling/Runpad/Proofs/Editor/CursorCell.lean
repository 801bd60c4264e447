/-
  The cursor on the screen and the cursor in the text.

  The cursor is put as far from the start of its window as the line before it is wide, less
  the columns that the window leaves out.  The line itself is drawn from a character on.

  * `InStep` says that each character that is drawn is where the cursor would be in front
    of it, and that the cursor is on the character that follows it in the text;
  * `CursorRow` is what there is to say about the row of the cursor;
  * `cursor_in_row`: in a `Regular` line the two are in step if and only if the window does
    not start within a wide character, and `wideStart_out_of_step`: it can start there.
-/
import Mathlib
import Runpad.Proofs.Editor.DrawnRows
import Runpad.Proofs.Editor.Redrawing

namespace Runpad

open Text

/-! ## Columns before a character -/

variable {t : Text} {k left : Nat}

/-- If no character matters to the columns of another one, the columns of a line up to a
    character are those of the characters before it. -/
theorem Text.columns_take_plain (h : ∀ c ∈ t, Plain c) (k : Nat) :
    columns (t.take k) = columnOf t k :=
  columns_plain fun c hc => h c (List.mem_of_mem_take hc)

/-- A window that starts within a character of a line starts in its second column. -/
theorem Text.Separate.left_le_rowStart (h : t.Separate) (hleft : left ≤ charsColumns t) :
    left ≤ rowStart left t + 1 := by
  obtain ⟨j, hj⟩ : ∃ j, j = (fitting left t).length := ⟨_, rfl⟩
  have hstart := rowStart_eq left t
  rw [← hj] at hstart
  by_cases hend : j < t.length
  · have hc := List.getElem?_eq_getElem hend
    have hsucc := columnOf_succ hc
    have hreach := left_lt_of_rowStart (hj ▸ hend)
    have hcolumns := h.columns _ (List.getElem_mem hend)
    rw [← hj] at hreach
    omega
  · have hall := columnOf_mono t (Nat.le_of_not_lt hend)
    rw [columnOf_length] at hall
    omega

namespace TextArea

variable (a : TextArea)

theorem take_column : a.line.take a.column = a.before.reverse := by
  rw [line, column, ← List.length_reverse, List.take_left]

theorem getElem?_row : a.lines[a.row]? = some a.line := by
  rw [lines, row, ← List.length_reverse, List.getElem?_append_right le_rfl, Nat.sub_self]
  rfl

theorem column_le : a.column ≤ a.line.length := by
  rw [line, column, List.length_append, List.length_reverse]
  exact Nat.le_add_right _ _

end TextArea

/-! ## In step -/

/-- The character with this number of the cursor's line is drawn. -/
def Drawn (inner : Rect) (a : TextArea) (k : Nat) (c : Char) : Prop :=
  InRow (rowStart a.firstColumn a.line) inner.width a.line k c

/-- The place of the cursor in front of a character of its line. -/
def caret (inner : Rect) (a : TextArea) (k : Nat) : Place :=
  ⟨inner.x + (columns (a.line.take k) - a.firstColumn), inner.y + (a.row - a.firstRow)⟩

/-- The cursor and the line are in step. -/
structure InStep (picture : Picture) (inner : Rect) (a : TextArea) : Prop where
  /-- A character that is drawn is where the cursor would be in front of it. -/
  character : ∀ k c, Drawn inner a k c →
    a.firstColumn ≤ columns (a.line.take k) ∧ (picture.shown (caret inner a k)).symbol = [c]
  /-- The cursor is on the character that follows it, if this one is drawn. -/
  under : ∀ p c, picture.cursor = some p → Drawn inner a a.column c →
    (picture.shown p).symbol = [c]
  /-- At the end of the line it is on a blank. -/
  atEnd : ∀ p, picture.cursor = some p → a.column = a.line.length →
    (picture.shown p).symbol = [' ']

/-- A line is as wide as its characters, and no character is wider than the window. -/
structure Regular (inner : Rect) (a : TextArea) : Prop where
  fits : ∀ c ∈ a.line, charColumns c ≤ inner.width
  adds : ∀ k ≤ a.line.length, columns (a.line.take k) = columnOf a.line k

/-- The row of the cursor's line. -/
structure CursorRow (picture : Picture) (inner : Rect) (a : TextArea) : Prop where
  /-- The line, less what is wider than the window, is drawn from the character on in which
      the window starts. -/
  line : RowShown picture ⟨inner.x, inner.y + (a.row - a.firstRow)⟩ inner.width
    (rowStart a.firstColumn (a.line.narrow inner.width)) (a.line.narrow inner.width)
  cursor : picture.cursor = some (caret inner a a.column)
  /-- A regular line starts where the window does, or a column before it. -/
  start : Regular inner a → rowStart a.firstColumn a.line = a.firstColumn ∨
    rowStart a.firstColumn a.line + 1 = a.firstColumn
  inStep : Regular inner a →
    (InStep picture inner a ↔ ∃ k, columnOf a.line k = a.firstColumn)

section Step

variable {picture : Picture} {inner : Rect} {a : TextArea} (h : Regular inner a)
include h

theorem Regular.narrow_eq : a.line.narrow inner.width = a.line :=
  List.filter_eq_self.mpr fun c hc => decide_eq_true (h.fits c hc)

theorem Regular.displayColumn_eq : a.displayColumn = columnOf a.line a.column := by
  rw [TextArea.displayColumn, ← a.take_column, h.adds _ a.column_le]

variable (hshown : a.firstColumn ≤ a.displayColumn)
include hshown

theorem Regular.left_le_columns : a.firstColumn ≤ charsColumns a.line := by
  rw [h.displayColumn_eq] at hshown
  have := columnOf_mono a.line a.column_le
  rw [columnOf_length] at this
  omega

/-- A window that starts with a character is in step with the cursor. -/
theorem Regular.inStep_of_start (hline : a.line.Separate)
    (hwindow : a.displayColumn < a.firstColumn + inner.width)
    (hrow : RowShown picture ⟨inner.x, inner.y + (a.row - a.firstRow)⟩ inner.width
      (rowStart a.firstColumn a.line) a.line)
    (hcursor : picture.cursor = some (caret inner a a.column))
    (hstart : rowStart a.firstColumn a.line = a.firstColumn) : InStep picture inner a := by
  have hcharacter : ∀ k c, Drawn inner a k c →
      a.firstColumn ≤ columns (a.line.take k) ∧
        (picture.shown (caret inner a k)).symbol = [c] := by
    intro k c hk
    obtain ⟨hlength, -⟩ := List.getElem?_eq_some_iff.mp hk.character
    have hplace := hrow.character k c hk
    rw [hstart] at hplace
    rw [caret, h.adds k hlength.le]
    exact ⟨hstart ▸ hk.start, hplace⟩
  refine ⟨hcharacter, fun p c hp hc => ?_, fun p hp hend => ?_⟩
  · cases hcursor.symm.trans hp
    exact (hcharacter _ c hc).2
  · cases hcursor.symm.trans hp
    have hcolumn := h.displayColumn_eq
    rw [hend, columnOf_length] at hcolumn
    rw [caret, h.adds _ a.column_le, hend, columnOf_length]
    -- all characters begin before the end of the line
    refine hrow.blank _ (by omega) fun k c hk hplace => ?_
    obtain ⟨hlength, -⟩ := List.getElem?_eq_some_iff.mp hk.character
    have hsucc := columnOf_succ hk.character
    have hpos := hline.columns c (List.mem_of_getElem? hk.character)
    have hlast := columnOf_mono a.line (Nat.succ_le_of_lt hlength)
    have hbehind := hk.start
    rw [columnOf_length, Nat.succ_eq_add_one] at hlast
    omega

/-- If they are in step, the window starts with a character: the one in which it starts
    would be drawn behind its place. -/
theorem Regular.start_of_inStep (hstep : InStep picture inner a) :
    rowStart a.firstColumn a.line = a.firstColumn := by
  obtain ⟨j, hj⟩ : ∃ j, j = (fitting a.firstColumn a.line).length := ⟨_, rfl⟩
  have hstart := rowStart_eq a.firstColumn a.line
  have hle := rowStart_le a.firstColumn a.line
  rw [← hj] at hstart
  by_cases hend : j < a.line.length
  · have hc := List.getElem?_eq_getElem hend
    have hsucc := columnOf_succ hc
    have hroom := h.fits _ (List.getElem_mem hend)
    obtain ⟨hbehind, -⟩ := hstep.character j _ ⟨hc, hstart.le, by omega⟩
    rw [h.adds j hend.le] at hbehind
    omega
  · have hall := columnOf_mono a.line (Nat.le_of_not_lt hend)
    have hleft := h.left_le_columns hshown
    rw [columnOf_length] at hall
    omega

end Step

/-! ## In the editor -/

namespace Editor

variable {e : Editor} {width height : Nat}

/-- The row of the cursor in an editor that shows it. -/
theorem cursorRow {r : Rect} (hhelp : e.help = false) (hprompt : e.prompt = none)
    (hr : (layout ⟨0, 0, width, height⟩).pane e.focus.pane = r) (hroom : r.inner.isEmpty = false)
    (hrows : Holds e.focused.firstRow r.inner.height e.focused.row)
    (hcolumns : Holds e.focused.firstColumn r.inner.width e.focused.displayColumn)
    (hline : e.focused.line.Separate) (hleft : e.focused.firstColumn ≤ Rect.lastCoordinate) :
    CursorRow (e.picture width height) r.inner e.focused := by
  obtain ⟨hwidth, hheight⟩ := Rect.isEmpty_eq_false_iff.mp hroom
  obtain ⟨habove, hbelow⟩ := hrows
  obtain ⟨hbehind, hwindow⟩ := hcolumns
  rw [max_eq_left hheight] at hbelow
  rw [max_eq_left hwidth] at hwindow
  have hcursor : (e.picture width height).cursor =
      some (caret r.inner e.focused e.focused.column) := by
    have harea := cursor_eq_areaCursor hprompt ⟨0, 0, width, height⟩
    rw [hr, areaCursor, hroom] at harea
    rw [caret, TextArea.take_column]
    exact harea
  have hindex : (e.region e.focus).lines[(e.region e.focus).firstRow +
      (e.focused.row - e.focused.firstRow)]? = some e.focused.line := by
    rw [← focused_eq, Nat.add_sub_cancel' habove, TextArea.getElem?_row]
  have hfits := fits_screen width height e.focus.pane
  rw [hr] at hfits
  have hrow := rowShown_region hhelp hprompt hr
    ⟨hfits, by omega, ⟨_, hindex, hline, rfl⟩, by rwa [← focused_eq], rfl⟩
  rw [← focused_eq] at hrow
  refine ⟨hrow, hcursor, fun h => ?_, fun h => ⟨fun hstep => ?_, fun hstart => ?_⟩⟩
  · have hsecond := hline.left_le_rowStart (h.left_le_columns hbehind)
    have hfirst := rowStart_le e.focused.firstColumn e.focused.line
    omega
  · exact rowStart_eq_iff.mp (h.start_of_inStep hbehind hstep)
  · rw [h.narrow_eq] at hrow
    exact h.inStep_of_start hbehind hline hwindow hrow hcursor (rowStart_eq_iff.mpr hstart)

/-- **The cursor is on its character** if and only if the window does not start within a
    wide one; otherwise the line is drawn a column farther to the right. -/
theorem cursor_in_row (e : Editor) (width height : Nat) (hhelp : e.help = false)
    (hprompt : e.prompt = none)
    (hroom : (e.drawn width height).focusedRect.inner.isEmpty = false)
    (hline : e.focused.line.Separate)
    (hleft : (e.drawn width height).focused.firstColumn ≤ Rect.lastCoordinate) :
    CursorRow ((e.drawn width height).picture width height)
      (e.drawn width height).focusedRect.inner (e.drawn width height).focused := by
  have hfollowed := TextArea.followed_scroll (e.drawn width height).focusedRect.inner.width
    (e.drawn width height).focusedRect.inner.height e.focused
  have hfocused := focused_drawn width height e
  have hsame : (e.drawn width height).focused.line = e.focused.line := by
    rw [hfocused]
    rfl
  rw [← hfocused] at hfollowed
  rw [← hsame] at hline
  refine cursorRow hhelp hprompt (focusedRect_drawn width height e).symm hroom ?_ ?_ hline hleft
  · rw [hfollowed.row]
    exact hfollowed.rows.holds
  · rw [hfollowed.displayColumn]
    exact hfollowed.columns.holds

/-- An editor in which a line was typed, on a screen on which its region has four columns,
    and the cursor moved back by a character. -/
def typedBack (line : Text) : Editor :=
  (({ input := ({} : TextArea).insertAll line } : Editor).drawn 26 5).mapFocused TextArea.moveLeft

/-- The first two columns of the line are left out, those of its first character. -/
def wholeStart : Editor :=
  typedBack ['错', 'a', '错']

/-- The first two columns of the line are left out, the second of which is the first one of a
    wide character. -/
def wideStart : Editor :=
  typedBack ['a', '错', '错']

theorem wholeStart_in_step :
    ((wholeStart.drawn 26 5).picture 26 5).cursor = some ⟨2, 1⟩ ∧
    (((wholeStart.drawn 26 5).picture 26 5).shown ⟨2, 1⟩).symbol = ['错'] := by
  have hplain : ∀ c ∈ (wholeStart.drawn 26 5).focused.line, Plain c := by
    simpa using (by decide +kernel :
      (wholeStart.drawn 26 5).focused.line.all (Plain ·) = true)
  have hfits : ∀ c ∈ (wholeStart.drawn 26 5).focused.line,
      charColumns c ≤ (wholeStart.drawn 26 5).focusedRect.inner.width := by
    simpa using (by decide +kernel :
      (wholeStart.drawn 26 5).focused.line.all
        (fun c => charColumns c ≤ (wholeStart.drawn 26 5).focusedRect.inner.width) = true)
  have hrow := cursor_in_row wholeStart 26 5 rfl rfl (by decide +kernel) (by decide +kernel)
    (by decide +kernel)
  have hstep := (hrow.inStep ⟨hfits, fun k _ => columns_take_plain hplain k⟩).mpr
    ⟨1, by decide +kernel⟩
  have hcursor : ((wholeStart.drawn 26 5).picture 26 5).cursor = some ⟨2, 1⟩ := by decide +kernel
  exact ⟨hcursor, hstep.under _ _ hcursor ⟨rfl, by decide +kernel, by decide +kernel⟩⟩

/-- The wide character in which the window starts is drawn in front of the next one, at the
    place of which the cursor is. -/
theorem wideStart_out_of_step :
    wideStart.help = false ∧ wideStart.prompt = none ∧
    (wideStart.drawn 26 5).focusedRect.inner = ⟨1, 1, 4, 2⟩ ∧
    (∀ line ∈ wideStart.focused.lines, line.Separate) ∧
    (wideStart.drawn 26 5).focused.firstColumn = 2 ∧
    ((wideStart.drawn 26 5).picture 26 5).cursor = some ⟨2, 1⟩ ∧
    (((wideStart.drawn 26 5).picture 26 5).shown ⟨3, 1⟩).symbol = ['错'] ∧
    ¬ InStep ((wideStart.drawn 26 5).picture 26 5) ⟨1, 1, 4, 2⟩
      (wideStart.drawn 26 5).focused := by
  have hcursor : ((wideStart.drawn 26 5).picture 26 5).cursor = some ⟨2, 1⟩ := by decide +kernel
  refine ⟨rfl, rfl, by decide +kernel, by decide +kernel, by decide +kernel, hcursor,
    by decide +kernel, fun h => ?_⟩
  have hunder := h.under _ '错' hcursor ⟨by decide +kernel, by decide +kernel, by decide +kernel⟩
  exact absurd hunder (by decide +kernel)

/-- Two letters that are measured as one are drawn as two, with the cursor on the second of
    them; and what is too wide for the window does not move what follows it. -/
example :
    (((({ input := { before := ['ا', 'ل'], after := ['b'] } } : Editor).drawn 26 5).picture
      26 5).shown ⟨2, 1⟩).symbol = ['ا'] ∧
    (({ input := { before := ['ا', 'ل'], after := ['b'] } } : Editor).drawn 26 5).cursor
      ⟨0, 0, 26, 5⟩ = some ⟨2, 1⟩ ∧
    (((({ input := { after := ['错', 'b'] } } : Editor).drawn 23 5).picture
      23 5).shown ⟨1, 1⟩).symbol = ['b'] := by
  decide +kernel

end Editor

end Runpad
