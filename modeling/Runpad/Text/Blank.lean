/-
  Blank characters (the property White_Space of Unicode) and what is left of a
  text without the blanks around it.

  * `isBlank` tells them;
  * `trim` drops them at both ends; `trim_trim`: a second time changes nothing.
-/
import Runpad.Text.Ranges

namespace Runpad.Text

/-- The ranges of White_Space. -/
def blanks : Ranges :=
  [(0x9, 0xD), (0x20, 0x20), (0x85, 0x85), (0xA0, 0xA0), (0x1680, 0x1680), (0x2000, 0x200A),
    (0x2028, 0x2029), (0x202F, 0x202F), (0x205F, 0x205F), (0x3000, 0x3000)]

/-- Whether a character is blank. -/
def isBlank (c : Char) : Bool :=
  blanks.holds c

/-- A text without the blanks it starts with. -/
def trimStart (t : Text) : Text :=
  t.dropWhile isBlank

/-- A text without the blanks it ends with. -/
def trimEnd : Text → Text
  | [] => []
  | c :: rest =>
    match trimEnd rest with
    | [] => if isBlank c then [] else [c]
    | kept => c :: kept

/-- A text without the blanks around it. -/
def trim (t : Text) : Text :=
  trimEnd (trimStart t)

/-- What is left at the end is empty or ends in a character that is not blank. -/
theorem trimEnd_trimEnd (t : Text) : trimEnd (trimEnd t) = trimEnd t := by
  induction t with
  | nil => rfl
  | cons c rest ih =>
    cases h : trimEnd rest with
    | nil => by_cases hc : isBlank c <;> simp [trimEnd, h, hc]
    | cons d kept =>
      rw [h] at ih
      simp only [trimEnd, h] at ih ⊢
      rw [ih]

theorem trimStart_trimEnd_trimStart (t : Text) :
    trimStart (trimEnd (trimStart t)) = trimEnd (trimStart t) := by
  unfold trimStart
  cases h : t.dropWhile isBlank with
  | nil => rfl
  | cons c rest =>
    have hc : isBlank c = false := by
      have := List.head?_dropWhile_not isBlank t
      rw [h] at this
      simpa using this
    cases hr : trimEnd rest <;> simp [trimEnd, hr, hc]

/-- Trimming a second time changes nothing. -/
theorem trim_trim (t : Text) : trim (trim t) = trim t := by
  rw [trim, trim, trimStart_trimEnd_trimStart, trimEnd_trimEnd]

end Runpad.Text
