/-
  What the editor knows: two regions of text, a prompt for paths or a page of
  help in front of them, and a status bar.

  * `Editor` is the whole of it; `Editor.start` is a fresh one;
  * `Editor.focused` is the region that has the focus, `mapFocused` changes it;
  * `buttonAt` and `regionAt` say what is at a place of the screen last drawn;
  * `interrupt` is the key that ends the editor when it is pressed twice;
  * `title` is the heading of the input.
-/
import Runpad.Disk.Path
import Runpad.Prompt
import Runpad.Screen.Layout
import Runpad.TextArea.Motion

namespace Runpad

/-- The two regions of text. -/
inductive Focus where
  | input
  | output
  deriving DecidableEq, Repr

/-- What the status bar says: a message, or what went wrong. -/
inductive Status where
  | info (text : Text)
  | error (text : Text)
  deriving DecidableEq, Repr

/-- The text of the status bar. -/
def Status.text : Status → Text
  | .info text | .error text => text

/-- Whether a program is on its way. -/
inductive RunState where
  | idle
  | submitting
  deriving DecidableEq, Repr

/-- The greeting in the status bar. -/
def greeting : Text := "F5 run | ^S save | ^O open | F1 help".toList

/-- The state of the editor. -/
structure Editor where
  input : TextArea := {}
  output : TextArea := {}
  focus : Focus := .input
  runState : RunState := .idle
  /-- The prompt in front of the regions, if a path is asked for. -/
  prompt : Option Prompt := none
  /-- The file last opened or saved. -/
  path : Option Path := none
  /-- Whether the input may differ from what was last opened or saved. -/
  modified : Bool := false
  status : Status := .info greeting
  /-- What the status bar says about the interpreter. -/
  label : Text := []
  /-- Whether the page of help is shown. -/
  help : Bool := false
  /-- When the interrupt key was last pressed, in milliseconds, if it counts. -/
  interruptedAt : Option Nat := none
  /-- Where the parts were when the screen was last drawn. -/
  regions : Regions := {}
  deriving DecidableEq, Repr

namespace Editor

/-- A fresh editor. -/
def start (label : Text) : Editor :=
  { label }

/-- Shows a message. -/
def info (text : Text) (e : Editor) : Editor :=
  { e with status := .info text }

/-- Shows what went wrong. -/
def error (text : Text) (e : Editor) : Editor :=
  { e with status := .error text }

/-! ## Regions -/

/-- The region that has the focus. -/
def focused (e : Editor) : TextArea :=
  match e.focus with
  | .input => e.input
  | .output => e.output

/-- Changes the region that has the focus. -/
def mapFocused (f : TextArea → TextArea) (e : Editor) : Editor :=
  match e.focus with
  | .input => { e with input := f e.input }
  | .output => { e with output := f e.output }

/-- Gives the focus to the other region. -/
def toggleFocus (e : Editor) : Editor :=
  { e with focus := match e.focus with
      | .input => .output
      | .output => .input }

/-- Shows or hides the page of help. -/
def toggleHelp (e : Editor) : Editor :=
  { e with help := !e.help }

/-- Where the focused region was when the screen was last drawn. -/
def focusedRect (e : Editor) : Rect :=
  match e.focus with
  | .input => e.regions.input
  | .output => e.regions.output

/-- How many rows of text the focused region shows, at least one. -/
def pageRows (e : Editor) : Nat :=
  max (e.focusedRect.height - 2) 1

/-- The button at a place. -/
def buttonAt (e : Editor) (p : Place) : Option Command :=
  Command.all.find? fun c => (e.regions.button c).Contains p

/-- The region of text at a place. -/
def regionAt (e : Editor) (p : Place) : Option Focus :=
  if e.regions.input.Contains p then some .input
  else if e.regions.output.Contains p then some .output
  else none

/-! ## Prompts, interrupts and the title -/

/-- Asks for a path, with the current one to start from.  A prompt holds a text, and
    paths are texts here; one that is none would be shown with its bad bytes replaced. -/
def ask (purpose : Purpose) (e : Editor) : Editor :=
  { e with prompt := some (Prompt.start purpose (e.path.getD [])) }

/-- How many milliseconds may pass between two interrupts that end the editor.  Times
    are whole milliseconds here; a clock may be finer, but nothing that is said of times
    depends on their unit. -/
def interruptWindow : Nat := 500

/-- An interrupt: whether it ends the editor, as it does soon after another. -/
def interrupt (now : Nat) (e : Editor) : Bool × Editor :=
  match e.interruptedAt.filter fun last => now - last ≤ interruptWindow with
  | some _ => (true, { e with interruptedAt := none })
  | none =>
    (false, { e with interruptedAt := some now }.info "Press Ctrl+C again to quit".toList)

/-- The heading of the input: the name of the file, and a mark if the text may
    differ from it. -/
def title (e : Editor) : Text :=
  let name := (e.path.bind Path.fileName?).getD "untitled".toList
  if e.modified then name ++ " [+]".toList else name

end Editor

end Runpad
