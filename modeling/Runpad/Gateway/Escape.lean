/-
  Texts on one line: backslash, carriage return and line feed are written as
  two characters, a backslash and a sign.

  * `escape` writes a text, `unescape` reads it back; a backslash before any
    other character, or at the end, stands for itself;
  * `unescape_escape`: a written text reads back; `escape_oneLine`: it holds no
    line break.
-/
import Runpad.Text.Ranges

namespace Runpad.Gateway

/-- How a character is written on one line. -/
def escapeChar (c : Char) : Text :=
  if c = '\\' then ['\\', '\\']
  else if c = '\r' then ['\\', 'r']
  else if c = '\n' then ['\\', 'n']
  else [c]

/-- A text written on one line. -/
def escape (t : Text) : Text :=
  t.flatMap escapeChar

/-- The text that was written on one line. -/
def unescape : Text → Text
  | '\\' :: 'n' :: rest => '\n' :: unescape rest
  | '\\' :: 'r' :: rest => '\r' :: unescape rest
  | '\\' :: '\\' :: rest => '\\' :: unescape rest
  | c :: rest => c :: unescape rest
  | [] => []

@[simp] theorem escape_nil : escape [] = [] := rfl

@[simp] theorem escape_cons (c : Char) (t : Text) : escape (c :: t) = escapeChar c ++ escape t :=
  rfl

/-- Away from a backslash, reading keeps the character. -/
theorem unescape_cons {c : Char} (h : c ≠ '\\') (t : Text) :
    unescape (c :: t) = c :: unescape t := by
  rw [unescape]
  all_goals (rintro rest rfl; exact absurd rfl h)

/-- **A written text reads back.** -/
theorem unescape_escape (t : Text) : unescape (escape t) = t := by
  induction t with
  | nil => rfl
  | cons c t ih =>
    rw [escape_cons, escapeChar]
    split
    · next h => simp [unescape, ih, h]
    · split
      · next h => simp [unescape, ih, h]
      · split
        · next h => simp [unescape, ih, h]
        · next h _ _ => simp [unescape_cons h, ih]

/-- A written text holds no line break. -/
theorem escape_oneLine (t : Text) : '\n' ∉ escape t ∧ '\r' ∉ escape t := by
  induction t with
  | nil => simp
  | cons c t ih =>
    rw [escape_cons, escapeChar]
    split
    · simp [ih]
    · split
      · simp [ih]
      · split
        · simp [ih]
        · next hr hn => simp [ih, Ne.symm hr, Ne.symm hn]

end Runpad.Gateway
