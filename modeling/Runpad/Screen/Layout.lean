/-
  Where the parts of the editor are on the screen.

  * `Command` are the three things that have a button;
  * `layout` puts the input, the output and the column of buttons side by side
    above the status bar, and `Regions.button` gives the place of a button;
  * `centred` is the middle of an area, three fifths wide and high.

  A width or a height that is too small for all parts is shared out by the rules
  of `columnWidths`, `mainHeight` and `buttonEdges`.
-/
import Runpad.Screen.Rect
import Runpad.Text.Ranges

namespace Runpad

/-- What a button does. -/
inductive Command where
  | run
  | save
  | open
  deriving DecidableEq, Repr

/-- The word on a button. -/
def Command.label : Command → Text
  | .run => "Run".toList
  | .save => "Save".toList
  | .open => "Open".toList

/-- The key that does the same as a button. -/
def Command.shortcut : Command → Text
  | .run => "F5".toList
  | .save => "^S".toList
  | .open => "^O".toList

/-- All buttons, from top to bottom. -/
def Command.all : List Command := [.run, .save, .open]

/-- The parts of the screen. -/
structure Regions where
  input : Rect := ⟨0, 0, 0, 0⟩
  output : Rect := ⟨0, 0, 0, 0⟩
  runButton : Rect := ⟨0, 0, 0, 0⟩
  saveButton : Rect := ⟨0, 0, 0, 0⟩
  openButton : Rect := ⟨0, 0, 0, 0⟩
  status : Rect := ⟨0, 0, 0, 0⟩
  deriving DecidableEq, Repr

/-- The place of a button. -/
def Regions.button (r : Regions) : Command → Rect
  | .run => r.runButton
  | .save => r.saveButton
  | .open => r.openButton

/-- `num / den` rounded to the nearest number, a half upwards. -/
def roundedShare (num den : Nat) : Nat :=
  (2 * num + den) / (2 * den)

/-- The columns of the buttons, and the least number of columns of the output. -/
def columnUnit : Nat := 10

/-- The widths of input, output and buttons.  The input gets half of the width,
    but leaves the others their unit; when that is not enough for both, the
    output comes first. -/
def columnWidths (width : Nat) : Nat × Nat × Nat :=
  let input := min (roundedShare width 2) (width - 2 * columnUnit)
  let buttons := min columnUnit (width - input - columnUnit)
  (input, width - input - buttons, buttons)

/-- The height of the part above the status bar; three rows come before the bar
    gets its one. -/
def mainHeight (height : Nat) : Nat :=
  if height ≤ 3 then height else height - 1

/-- The rows of a button. -/
def buttonHeight : Nat := 3

/-- Where the buttons end, counted from the top: they share a height that is too
    small for them. -/
def buttonEdges (height : Nat) : Nat × Nat × Nat :=
  let all := min height (3 * buttonHeight)
  (roundedShare all 3, roundedShare (2 * all) 3, all)

/-- The parts of the screen, or of another area. -/
def layout (area : Rect) : Regions :=
  let width := area.right - area.x
  let height := area.bottom - area.y
  let main := mainHeight height
  let (input, output, buttons) := columnWidths width
  let (first, second, third) := buttonEdges main
  let column := area.x + input + output
  { input := ⟨area.x, area.y, input, main⟩
    output := ⟨area.x + input, area.y, output, main⟩
    runButton := ⟨column, area.y, buttons, first⟩
    saveButton := ⟨column, area.y + first, buttons, second - first⟩
    openButton := ⟨column, area.y + second, buttons, third - second⟩
    status := ⟨area.x, area.y + main, width, height - main⟩ }

/-- The middle of an area: three fifths of its width and of its height. -/
def centred (area : Rect) : Rect :=
  let left := roundedShare area.width 5
  let right := roundedShare (4 * area.width) 5
  let top := roundedShare area.height 5
  let bottom := roundedShare (4 * area.height) 5
  ⟨area.x + left, area.y + top, right - left, bottom - top⟩

end Runpad
