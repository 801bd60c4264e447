/-
  A region of text with a cursor in it.

  The text is held from the cursor's point of view: the lines above it and the
  characters before it, nearest first, then the characters after it and the
  lines below.  So the cursor cannot leave the text, and every edit happens
  where the two halves meet.

  * `TextArea.ofText`, `text` and `lines` go between a text and an area;
    `row` and `column` are the place of the cursor;
  * `insert`, `backspace` and `delete` edit, the move operations are in
    `Runpad.TextArea.Motion`;
  * `Tidy` says that no line holds a line feed; every edit keeps it
    (`Tidy.insert`, `Tidy.backspace`, `Tidy.delete`);
  * `text_ofText`: the text is kept exactly.
-/
import Runpad.Text.Lines

namespace Runpad

/-- A text with a cursor, and the row and column at which its window starts. -/
structure TextArea where
  /-- The lines above the cursor's line, nearest first. -/
  above : List Text := []
  /-- The characters before the cursor on its line, nearest first. -/
  before : Text := []
  /-- The characters after the cursor on its line. -/
  after : Text := []
  /-- The lines below the cursor's line. -/
  below : List Text := []
  /-- The first row that the window shows. -/
  firstRow : Nat := 0
  /-- The first column that the window shows. -/
  firstColumn : Nat := 0
  deriving DecidableEq, Repr

namespace TextArea

/-! ## Views -/

/-- The cursor's line. -/
def line (a : TextArea) : Text :=
  a.before.reverse ++ a.after

/-- All lines, at least one. -/
def lines (a : TextArea) : List Text :=
  a.above.reverse ++ a.line :: a.below

/-- The number of lines. -/
def lineCount (a : TextArea) : Nat :=
  a.above.length + 1 + a.below.length

/-- The number of lines above the cursor. -/
def row (a : TextArea) : Nat :=
  a.above.length

/-- The number of characters before the cursor on its line. -/
def column (a : TextArea) : Nat :=
  a.before.length

/-- The whole text. -/
def text (a : TextArea) : Text :=
  match a.lines with
  | [] => []
  | line :: later => Text.join line later

/-- Whether the text is empty. -/
def isEmpty (a : TextArea) : Bool :=
  a.text.isEmpty

/-- A text with the cursor and the window at its start. -/
def ofText (t : Text) : TextArea :=
  let (line, later) := Text.cut t
  { after := line, below := later }

theorem length_lines (a : TextArea) : a.lines.length = a.lineCount := by
  simp [lines, lineCount]
  omega

/-- **The text is kept exactly**, line endings included. -/
theorem text_ofText (t : Text) : (ofText t).text = t := by
  simp [ofText, text, lines, line, Text.join_cut]

/-! ## Edits -/

/-- Breaks the line at the cursor, which is then at the start of a line. -/
def breakLine (a : TextArea) : TextArea :=
  { a with above := a.before.reverse :: a.above, before := [] }

/-- Puts a character before the cursor; a line feed breaks the line. -/
def insert (c : Char) (a : TextArea) : TextArea :=
  if c = '\n' then a.breakLine else { a with before := c :: a.before }

/-- Puts the characters of a text before the cursor, one after the other. -/
def insertAll (t : Text) (a : TextArea) : TextArea :=
  t.foldl (fun a c => a.insert c) a

/-- Puts a text before the cursor, each of its line breaks as a line feed. -/
def paste (t : Text) (a : TextArea) : TextArea :=
  a.insertAll (Text.unifyBreaks t)

/-- The blanks that stand for a tab. -/
def tabStop : Text := List.replicate 4 ' '

/-- Puts a tab's blanks before the cursor. -/
def insertTab (a : TextArea) : TextArea :=
  a.insertAll tabStop

/-- Removes the character before the cursor; at the start of a line, the line
    break before it. -/
def backspace (a : TextArea) : TextArea :=
  match a.before, a.above with
  | _ :: before, _ => { a with before := before }
  | [], previous :: above => { a with above := above, before := previous.reverse }
  | [], [] => a

/-- Removes the character after the cursor; at the end of a line, the line break
    after it. -/
def delete (a : TextArea) : TextArea :=
  match a.after, a.below with
  | _ :: after, _ => { a with after := after }
  | [], next :: below => { a with after := next, below := below }
  | [], [] => a

/-! ## Lines stay lines -/

/-- No line holds a line feed. -/
structure Tidy (a : TextArea) : Prop where
  above : ∀ l ∈ a.above, '\n' ∉ l
  before : '\n' ∉ a.before
  after : '\n' ∉ a.after
  below : ∀ l ∈ a.below, '\n' ∉ l

theorem tidy_empty : Tidy {} := by
  constructor <;> simp

theorem tidy_ofText (t : Text) : (ofText t).Tidy := by
  have h := Text.cut_noFeed t
  constructor <;> simp_all [ofText]

theorem Tidy.insert {a : TextArea} (h : a.Tidy) (c : Char) : (a.insert c).Tidy := by
  unfold TextArea.insert breakLine
  split
  · exact ⟨by simpa using ⟨h.before, h.above⟩, by simp, h.after, h.below⟩
  · next hc => exact ⟨h.above, by simpa [Ne.symm hc] using h.before, h.after, h.below⟩

theorem Tidy.insertAll {a : TextArea} (h : a.Tidy) (t : Text) : (a.insertAll t).Tidy := by
  induction t generalizing a with
  | nil => exact h
  | cons c t ih => exact ih (h.insert c)

theorem Tidy.backspace {a : TextArea} (h : a.Tidy) : a.backspace.Tidy := by
  obtain ⟨h₁, h₂, h₃, h₄⟩ := h
  unfold TextArea.backspace
  split <;> constructor <;> simp_all

theorem Tidy.delete {a : TextArea} (h : a.Tidy) : a.delete.Tidy := by
  obtain ⟨h₁, h₂, h₃, h₄⟩ := h
  unfold TextArea.delete
  split <;> constructor <;> simp_all

end TextArea

end Runpad
