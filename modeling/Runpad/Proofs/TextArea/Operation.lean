/-
  Text areas as they come about.

  * `Operation` is one thing that can be done to a text area, `built` does
    several to an empty one;
  * `tidy_iff`: an area is tidy iff none of its lines holds a line feed;
  * `tidy_built`: so is every area that comes about, and its lines are those of
    its text (`Tidy.lines_text`), which tells such areas apart as well
    (`Tidy.text_eq_iff`).
-/
import Mathlib
import Runpad.TextArea.Motion
import Runpad.TextArea.Viewport

namespace Runpad.TextArea

/-- One thing that can be done to a text area. -/
inductive Operation where
  | setText (t : Text)
  | clear
  | insert (c : Char)
  | paste (t : Text)
  | breakLine
  | insertTab
  | backspace
  | delete
  | moveLeft
  | moveRight
  | moveUp
  | moveDown
  | toLineStart
  | toLineEnd
  | pageUp (rows : Nat)
  | pageDown (rows : Nat)
  | scroll (width height : Nat)
  deriving DecidableEq, Repr

/-- Does it. -/
def Operation.apply (a : TextArea) : Operation → TextArea
  | .setText t => ofText t
  | .clear => ofText []
  | .insert c => a.insert c
  | .paste t => a.paste t
  | .breakLine => a.breakLine
  | .insertTab => a.insertTab
  | .backspace => a.backspace
  | .delete => a.delete
  | .moveLeft => a.moveLeft
  | .moveRight => a.moveRight
  | .moveUp => a.moveUp
  | .moveDown => a.moveDown
  | .toLineStart => a.toLineStart
  | .toLineEnd => a.toLineEnd
  | .pageUp rows => a.pageUp rows
  | .pageDown rows => a.pageDown rows
  | .scroll width height => a.scroll width height

/-- The area that comes about from an empty one. -/
def built (ops : List Operation) : TextArea :=
  ops.foldl Operation.apply {}

/-! ## No line holds a line feed -/

theorem tidy_iff {a : TextArea} : a.Tidy ↔ ∀ l ∈ a.lines, '\n' ∉ l := by
  constructor
  · rintro ⟨h₁, h₂, h₃, h₄⟩ l hl
    simp only [lines, List.mem_append, List.mem_reverse, List.mem_cons] at hl
    rcases hl with hl | rfl | hl
    · exact h₁ l hl
    · simp [line, h₂, h₃]
    · exact h₄ l hl
  · intro h
    have hline : '\n' ∉ a.line := h _ (by simp [lines])
    simp only [line, List.mem_append, List.mem_reverse, not_or] at hline
    exact ⟨fun l hl => h l (by simp [lines, hl]), hline.1, hline.2,
      fun l hl => h l (by simp [lines, hl])⟩

/-- A move keeps an area tidy, as it keeps the lines. -/
theorem Tidy.of_lines {a b : TextArea} (h : a.Tidy) (hl : b.lines = a.lines) : b.Tidy := by
  rw [tidy_iff] at h ⊢
  rwa [hl]

theorem breakLine_eq_insert (a : TextArea) : a.breakLine = a.insert '\n' := by
  simp [insert]

theorem Tidy.apply {a : TextArea} (h : a.Tidy) (op : Operation) : (op.apply a).Tidy := by
  cases op with
  | setText t => exact tidy_ofText t
  | clear => exact tidy_ofText []
  | insert c => exact h.insert c
  | paste t => exact h.insertAll _
  | breakLine => rw [Operation.apply, breakLine_eq_insert]; exact h.insert _
  | insertTab => exact h.insertAll _
  | backspace => exact h.backspace
  | delete => exact h.delete
  | moveLeft => exact h.of_lines (lines_moveLeft a)
  | moveRight => exact h.of_lines (lines_moveRight a)
  | moveUp | moveDown | pageUp | pageDown => exact h.of_lines (lines_toRow _ a)
  | toLineStart => exact h.of_lines (lines_toLineStart a)
  | toLineEnd => exact h.of_lines (lines_toLineEnd a)
  | scroll width height => exact h.of_lines (lines_scroll width height a)

theorem Tidy.foldl {a : TextArea} (h : a.Tidy) (ops : List Operation) :
    (ops.foldl Operation.apply a).Tidy := by
  induction ops generalizing a with
  | nil => exact h
  | cons op ops ih => exact ih (h.apply op)

theorem tidy_built (ops : List Operation) : (built ops).Tidy :=
  tidy_empty.foldl ops

/-- **The lines of a tidy area are those of its text.** -/
theorem Tidy.lines_text {a : TextArea} (h : a.Tidy) : Text.lines a.text = a.lines := by
  rw [tidy_iff] at h
  unfold text
  split
  · next hl => simp [lines] at hl
  · next line later hl =>
    rw [hl] at h
    rw [hl, Text.lines, Text.cut_join (h _ (by simp)) fun l hm => h l (by simp [hm])]

theorem lines_ofText (t : Text) : (ofText t).lines = Text.lines t := rfl

/-- Tidy areas have the same text iff they have the same lines. -/
theorem Tidy.text_eq_iff {a b : TextArea} (ha : a.Tidy) (hb : b.Tidy) :
    a.text = b.text ↔ a.lines = b.lines := by
  constructor
  · intro h
    rw [← ha.lines_text, ← hb.lines_text, h]
  · intro h
    simp only [text, h]

end Runpad.TextArea
