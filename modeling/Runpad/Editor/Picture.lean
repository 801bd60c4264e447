/-
  How the editor looks.

  * `Editor.picture` is the picture of an editor whose windows were placed by
    `Editor.drawn`: the two regions of text, the buttons and the status bar, and
    in front of them the page of help or the prompt;
  * `areaStrokes`, `buttonStrokes`, `statusStrokes`, `helpStrokes` and
    `promptStrokes` draw the parts;
  * `Editor.cursor` is where the cursor is: in the prompt if there is one, and
    else in the focused region.
-/
import Runpad.Editor.Session
import Runpad.Screen.Strip
import Runpad.Text.Truncate

namespace Runpad

/-! ## Regions of text -/

/-- The rows of a text area that a window of the given height shows. -/
def TextArea.shownLines (height : Nat) (a : TextArea) : List Text :=
  (a.lines.drop a.firstRow).take height

/-- Draws a text area with its heading in a frame. -/
def areaStrokes (area : Rect) (active : Bool) (heading : Text) (a : TextArea) : List Stroke :=
  .restyle area { foreground := some .white } ::
  .frame area { foreground := some (if active then .cyan else .darkGray) } ::
  headingLeft {} (between area area.y) heading ++
  [paragraph area.inner (min a.firstColumn Rect.lastCoordinate)
    ((a.shownLines area.inner.height).map (piecesOf {}))]

/-- The place of the cursor of a text area. -/
def areaCursor (area : Rect) (a : TextArea) : Option Place :=
  if area.inner.isEmpty then none
  else some ⟨area.inner.x + (a.displayColumn - a.firstColumn),
    area.inner.y + (a.row - a.firstRow)⟩

/-! ## Buttons and status bar -/

/-- The colours of a button. -/
def buttonStyle (busy : Bool) : Style where
  foreground := some .black
  background := some (if busy then .yellow else .gray)

/-- Draws a button: its word in bold, and its key. -/
def buttonStrokes (area : Rect) (busy : Bool) (command : Command) : List Stroke :=
  let style := buttonStyle busy
  [.restyle area style, .frame area style,
    centredLine area.inner
      (piecesOf { style with bold := true } command.label ++
        piecesOf style (' ' :: command.shortcut))]

/-- The colours of a message. -/
def Status.style : Status → Style
  | .info _ => { foreground := some .white, background := some .darkGray }
  | .error _ => { foreground := some .white, background := some .red }

/-- The text at the right end of the status bar. -/
def paddedLabel (label : Text) : Text :=
  ' ' :: label ++ [' ']

/-- The text at the left end of a status bar: the message, cut to what the
    label leaves. -/
def shownMessage (width : Nat) (message label : Text) : Text :=
  Text.truncate (width - min (Text.columns (paddedLabel label)) width) (' ' :: message)

/-- The blanks between the message and the label. -/
def statusGap (width : Nat) (message label : Text) : Nat :=
  width - min (Text.columns (paddedLabel label)) width -
    Text.columns (shownMessage width message label)

/-- The pieces of a status bar of the given width. -/
def statusLine (width : Nat) (status : Status) (label : Text) : List Piece :=
  piecesOf status.style (shownMessage width status.text label) ++
  piecesOf status.style (List.replicate (statusGap width status.text label) ' ') ++
  piecesOf { foreground := some .black, background := some .gray } (paddedLabel label)

/-- Draws the status bar. -/
def statusStrokes (area : Rect) (status : Status) (label : Text) : List Stroke :=
  [paragraph area 0 [statusLine area.width status label]]

/-! ## Help and prompt -/

/-- The page of help. -/
def helpLines : List Text :=
  ["Commands:",
    "  F5 / Ctrl+R   - Run the program",
    "  Ctrl+S        - Save input to a file",
    "  Ctrl+O        - Open a file into the input",
    "",
    "Navigation:",
    "  Shift+Tab     - Switch input/output",
    "  Tab           - Indent (input) / switch (output)",
    "  Arrows, Home, End, PgUp, PgDn",
    "  Mouse click   - Press button / focus region",
    "",
    "  F1            - Toggle this help",
    "  Ctrl+Q        - Quit (or Ctrl+C twice)"].map String.toList

/-- Draws the page of help in the middle of the screen. -/
def helpStrokes (screen : Rect) : List Stroke :=
  let area := centred screen
  .erase area :: .frame area {} ::
  headingLeft { foreground := some .yellow, bold := true } (between area area.y) "Help".toList ++
  [paragraph area.inner 0 (helpLines.map (piecesOf {}))]

/-- The place of the prompt on a screen. -/
def promptRect (screen : Rect) : Rect :=
  let width := min (screen.width - 4) 70
  ⟨(screen.width - width) / 2, (screen.height - 4) / 2, width, min 4 screen.height⟩

namespace Prompt

/-- The column of the cursor in the path. -/
def cursorColumn (p : Prompt) : Nat :=
  Text.columns (p.path.take p.cursor)

/-- The columns of the path that lie before a window of the given width. -/
def scrolled (width : Nat) (p : Prompt) : Nat :=
  p.cursorColumn - (width - 1)

/-- The keys that end a prompt. -/
def keys : Text := " Enter confirm | Esc cancel ".toList

/-- Draws the prompt. -/
def strokes (screen : Rect) (p : Prompt) : List Stroke :=
  let area := promptRect screen
  let style : Style := { foreground := some .green, bold := true }
  .erase area :: .frame area {} ::
  headingLeft style (between area area.y) (' ' :: p.title ++ [' ']) ++
  headingRight style (between area (area.bottom - 1)) keys ++
  [paragraph area.inner (min (p.scrolled area.inner.width) Rect.lastCoordinate)
    ((Text.shown p.path).map (piecesOf {}))]

/-- The place of the cursor. -/
def place (screen : Rect) (p : Prompt) : Option Place :=
  let inner := (promptRect screen).inner
  if inner.isEmpty then none
  else some ⟨inner.x + (p.cursorColumn - p.scrolled inner.width), inner.y⟩

end Prompt

/-! ## The whole screen -/

namespace Editor

/-- Whether a region shows the cursor. -/
def isActive (focus : Focus) (e : Editor) : Bool :=
  e.focus = focus && e.prompt.isNone

/-- Whether a button is at work. -/
def isBusy (command : Command) (e : Editor) : Bool :=
  command = .run && e.runState = .submitting

/-- The two regions of text, the buttons and the status bar. -/
def mainStrokes (regions : Regions) (e : Editor) : List Stroke :=
  areaStrokes regions.input (e.isActive .input) (' ' :: e.title ++ [' ']) e.input ++
  areaStrokes regions.output (e.isActive .output) " Output ".toList e.output ++
  Command.all.flatMap (fun c => buttonStrokes (regions.button c) (e.isBusy c) c) ++
  statusStrokes regions.status e.status e.label

/-- What is in front of the regions. -/
def overlayStrokes (screen : Rect) (e : Editor) : List Stroke :=
  (if e.help then helpStrokes screen else []) ++
  (match e.prompt with
    | some p => p.strokes screen
    | none => [])

/-- The place of the cursor. -/
def cursor (screen : Rect) (e : Editor) : Option Place :=
  match e.prompt with
  | some p => p.place screen
  | none =>
    match e.focus with
    | .input => areaCursor (layout screen).input e.input
    | .output => areaCursor (layout screen).output e.output

/-- The editor on a screen of the given size. -/
def picture (width height : Nat) (e : Editor) : Picture :=
  let screen : Rect := ⟨0, 0, width, height⟩
  { strokes := e.mainStrokes (layout screen) ++ e.overlayStrokes screen
    cursor := e.cursor screen }

end Editor

end Runpad
