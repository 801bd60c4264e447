/-
  The prompt for the path of a file.

  * `Prompt` is a line of text with a cursor, asked for opening or for saving;
  * `insert`, `insertAll`, `backspace` and the moves edit it, and keep the
    cursor within the path (`Within`);
  * `chosen` is the path without the blanks around it, if anything is left.
-/
import Runpad.Text.Blank

namespace Runpad

/-- What a path is asked for. -/
inductive Purpose where
  | open
  | save
  deriving DecidableEq, Repr

/-- A path being typed. -/
structure Prompt where
  purpose : Purpose
  path : Text
  /-- The number of characters before the cursor. -/
  cursor : Nat
  deriving DecidableEq, Repr

namespace Prompt

/-- A prompt that starts with a path, the cursor at its end. -/
def start (purpose : Purpose) (path : Text) : Prompt :=
  ⟨purpose, path, path.length⟩

/-- The heading of the prompt. -/
def title (p : Prompt) : Text :=
  match p.purpose with
  | .open => "Open file".toList
  | .save => "Save as".toList

/-- Puts a character before the cursor. -/
def insert (c : Char) (p : Prompt) : Prompt :=
  { p with path := p.path.take p.cursor ++ c :: p.path.drop p.cursor, cursor := p.cursor + 1 }

/-- Puts the characters of a text before the cursor, but no line breaks. -/
def paste (t : Text) (p : Prompt) : Prompt :=
  (t.filter fun c => c ≠ '\r' && c ≠ '\n').foldl (fun p c => p.insert c) p

/-- Removes the character before the cursor. -/
def backspace (p : Prompt) : Prompt :=
  if p.cursor = 0 then p
  else
    { p with path := p.path.take (p.cursor - 1) ++ p.path.drop p.cursor, cursor := p.cursor - 1 }

/-- One character back. -/
def moveLeft (p : Prompt) : Prompt :=
  { p with cursor := p.cursor - 1 }

/-- One character on. -/
def moveRight (p : Prompt) : Prompt :=
  { p with cursor := min (p.cursor + 1) p.path.length }

/-- To the start of the path. -/
def toStart (p : Prompt) : Prompt :=
  { p with cursor := 0 }

/-- To the end of the path. -/
def toEnd (p : Prompt) : Prompt :=
  { p with cursor := p.path.length }

/-- The path that the prompt stands for; none if it is blank. -/
def chosen (p : Prompt) : Option Text :=
  match Text.trim p.path with
  | [] => none
  | path => some path

/-- The cursor is within the path. -/
def Within (p : Prompt) : Prop :=
  p.cursor ≤ p.path.length

theorem within_start (purpose : Purpose) (path : Text) : (start purpose path).Within :=
  Nat.le_refl _

theorem Within.insert {p : Prompt} (h : p.Within) (c : Char) : (p.insert c).Within := by
  simp only [Within, Prompt.insert, List.length_append, List.length_take, List.length_cons,
    List.length_drop] at h ⊢
  omega

theorem Within.backspace {p : Prompt} (h : p.Within) : p.backspace.Within := by
  unfold Prompt.backspace
  split
  · exact h
  · simp only [Within, List.length_append, List.length_take, List.length_drop] at h ⊢
    omega

end Prompt

end Runpad
