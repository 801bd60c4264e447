/-
  Texts cut to a number of columns.

  * `truncate` keeps a text that fits, and else as much of it as leaves room for
    the ellipsis that takes the place of the rest;
  * `fitting` is the start of a text whose characters, counted one by one, fit;
    `fitting_prefix`: it is a beginning of the text;
  * `truncate_of_le`: what fits stays.
-/
import Runpad.Text.Width

namespace Runpad.Text

/-- The longest start of a text whose characters take at most `room` columns,
    each counted by itself. -/
def fitting (room : Nat) : Text → Text
  | [] => []
  | c :: rest =>
    if charColumns c ≤ room then c :: fitting (room - charColumns c) rest else []

/-- What takes the place of a text that was cut off. -/
def ellipsis : Char := '…'

/-- The text in at most `room` columns. -/
def truncate (room : Nat) (t : Text) : Text :=
  if columns t ≤ room then t
  else fitting (room - 1) t ++ if room = 0 then [] else [ellipsis]

/-- A fitting start is a beginning of the text. -/
theorem fitting_prefix (room : Nat) (t : Text) : fitting room t <+: t := by
  induction t generalizing room with
  | nil => exact List.nil_prefix
  | cons c rest ih =>
    rw [fitting]
    split
    · exact (List.prefix_cons_inj c).mpr (ih _)
    · exact List.nil_prefix

/-- What fits stays as it is. -/
theorem truncate_of_le {room : Nat} {t : Text} (h : columns t ≤ room) : truncate room t = t :=
  if_pos h

end Runpad.Text
