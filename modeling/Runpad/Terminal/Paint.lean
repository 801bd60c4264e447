/-
  What a terminal is sent to show a picture.

  * `paint` goes through the cells row by row; the colours are named where they
    change, and the second column of a wide symbol is left to the symbol;
  * `enter` and `leave` switch the terminal to a screen of its own and back,
    `askSize` sends the cursor to the last place and asks where it is.
-/
import Runpad.Number.Integer
import Runpad.Screen.Canvas

namespace Runpad.Terminal

/-- A sequence for the terminal. -/
def control (body : Text) : Text :=
  '\x1b' :: '[' :: body

/-- The number of a colour for letters. -/
def colorNumber : Color → Nat
  | .reset => 39
  | .white => 97
  | .black => 30
  | .cyan => 36
  | .darkGray => 90
  | .gray => 37
  | .red => 31
  | .yellow => 33
  | .green => 32

/-- The sequence that switches to the colours of a cell; a background has the
    number of the colour for letters and ten. -/
def colorsOf (c : Cell) : Text :=
  control ("0;".toList ++ (if c.bold then "1;".toList else []) ++
    Number.digits (colorNumber c.foreground) ++ ';' ::
    Number.digits (colorNumber c.background + 10) ++ ['m'])

/-- The sequence that puts the cursor at a place. -/
def moveTo (p : Place) : Text :=
  control (Number.digits (p.y + 1) ++ ';' :: Number.digits (p.x + 1) ++ ['H'])

/-- The cells of a row, after one with the given look. -/
def paintCells (last : Option Cell) : List Cell → Text
  | [] => []
  | c :: rest =>
    let look : Cell := { c with symbol := [] }
    let colors := if last = some look then [] else colorsOf c
    let covered := Text.columns c.symbol - 1
    colors ++ c.symbol ++ paintCells (some look) (rest.drop covered)
termination_by cells => cells.length
decreasing_by simp only [List.length_drop, List.length_cons]; omega

/-- Hides or shows the cursor. -/
def showCursor (shown : Bool) : Text :=
  control (if shown then "?25h".toList else "?25l".toList)

/-- A picture on a screen of the given size. -/
def paint (width height : Nat) (picture : Picture) : Text :=
  let rows := (picture.rows width height).zipIdx
  showCursor false ++
  rows.flatMap (fun (row, y) => moveTo ⟨0, y⟩ ++ paintCells none row) ++
  match picture.cursor with
  | some p => moveTo p ++ showCursor true
  | none => []

/-- Switches to a screen of its own, with the mouse and marked pastes. -/
def enter : Text :=
  ["?1049h", "?1000h", "?1002h", "?1006h", "?2004h"].flatMap fun mode => control mode.toList

/-- Switches back. -/
def leave : Text :=
  ["?2004l", "?1006l", "?1002l", "?1000l", "?1049l", "0m"].flatMap (fun mode => control mode.toList) ++
    showCursor true

/-- Asks for the size of the screen. -/
def askSize : Text :=
  moveTo ⟨998, 998⟩ ++ control "6n".toList

end Runpad.Terminal
