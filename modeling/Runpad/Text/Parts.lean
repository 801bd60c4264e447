/-
  Texts cut at every occurrence of a character.

  * `parts` gives the parts between the occurrences, at least one;
  * `intercalate_parts`: with the character between them, the parts are the text
    again.
-/
import Runpad.Text.Ranges

namespace Runpad.Text

/-- The parts of a text between the occurrences of a character. -/
def parts (c : Char) : Text → List Text
  | [] => [[]]
  | d :: rest =>
    match parts c rest with
    | [] => [[d]]
    | first :: later => if d = c then [] :: first :: later else (d :: first) :: later

theorem parts_ne_nil (c : Char) (t : Text) : parts c t ≠ [] := by
  cases t with
  | nil => simp [parts]
  | cons d rest =>
    rw [parts]
    split
    · simp
    · split <;> simp

/-- **Cutting loses nothing**: the parts put together again give the text. -/
theorem intercalate_parts (c : Char) (t : Text) : [c].intercalate (parts c t) = t := by
  induction t with
  | nil => rfl
  | cons d rest ih =>
    rw [parts]
    split
    · next h => exact absurd h (parts_ne_nil c rest)
    · next first later h =>
      rw [h] at ih
      split
      · next hd => cases later <;> simp_all [List.intercalate, List.intersperse]
      · cases later <;> simp_all [List.intercalate, List.intersperse]

end Runpad.Text
