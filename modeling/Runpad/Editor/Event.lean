/-
  What the user does, and how the editor takes it.

  A prompt takes every key, a page of help takes the next one, and otherwise
  some keys are commands and the others move or edit.

  * `Event` is a key, an action of the mouse, a paste, or a new size of the
    screen;
  * `Editor.press`, `Editor.mouse` and `Editor.paste` are the responses, `Flow`
    says what has to follow;
  * `Editor.handle` puts them together.
-/
import Runpad.Editor.Commands

namespace Runpad

/-- A key of the keyboard. -/
inductive Key where
  | char (c : Char)
  | enter
  | escape
  | tab
  | backTab
  | backspace
  | delete
  | insert
  | left
  | right
  | up
  | down
  | home
  | endKey
  | pageUp
  | pageDown
  | function (n : Nat)
  deriving DecidableEq, Repr

/-- The keys that are held down while another one is pressed. -/
structure Modifiers where
  control : Bool := false
  alt : Bool := false
  shift : Bool := false
  deriving DecidableEq, Repr

/-- A button of the mouse. -/
inductive MouseButton where
  | left
  | right
  | middle
  deriving DecidableEq, Repr

/-- What the mouse does. -/
inductive MouseAction where
  | press (button : MouseButton)
  | release (button : MouseButton)
  | drag (button : MouseButton)
  | move
  | scrollUp
  | scrollDown
  | scrollLeft
  | scrollRight
  deriving DecidableEq, Repr

/-- What the user does. -/
inductive Event where
  | key (key : Key) (modifiers : Modifiers)
  | mouse (action : MouseAction) (place : Place)
  | paste (text : Text)
  | resize (width height : Nat)
  deriving DecidableEq, Repr

/-- What has to follow an event. -/
inductive Flow where
  | proceed
  | execute (command : Command)
  | quit
  deriving DecidableEq, Repr

namespace Editor

/-! ## Keys in front of the regions -/

/-- Does what a prompt asked for. -/
def finishPrompt (store : Store) (purpose : Purpose) (path : Option Path) (e : Editor)
    (disk : Disk) : Editor × Disk :=
  match purpose with
  | .open => (e.openFile path disk, disk)
  | .save => e.saveFile store path disk

/-- A key that edits the path of a prompt. -/
def promptKey (key : Key) (modifiers : Modifiers) (p : Prompt) : Prompt :=
  match key with
  | .backspace => p.backspace
  | .left => p.moveLeft
  | .right => p.moveRight
  | .home => p.toStart
  | .endKey => p.toEnd
  | .char c => if modifiers.control then p else p.insert c
  | _ => p

/-- A key while a prompt is shown. -/
def pressInPrompt (store : Store) (p : Prompt) (key : Key) (modifiers : Modifiers) (e : Editor)
    (disk : Disk) : Editor × Disk :=
  match key with
  | .escape => { e with prompt := none }.finishPrompt store p.purpose none disk
  | .enter => { e with prompt := none }.finishPrompt store p.purpose p.chosen disk
  | _ => ({ e with prompt := some (promptKey key modifiers p) }, disk)

/-! ## Keys in the regions -/

/-- The move that a key stands for. -/
def move? (rows : Nat) : Key → Option (TextArea → TextArea)
  | .left => some TextArea.moveLeft
  | .right => some TextArea.moveRight
  | .up => some TextArea.moveUp
  | .down => some TextArea.moveDown
  | .home => some TextArea.toLineStart
  | .endKey => some TextArea.toLineEnd
  | .pageUp => some (TextArea.pageUp rows)
  | .pageDown => some (TextArea.pageDown rows)
  | _ => none

/-- The edit that a key stands for. -/
def edit? (modifiers : Modifiers) : Key → Option (TextArea → TextArea)
  | .enter => some TextArea.breakLine
  | .backspace => some TextArea.backspace
  | .delete => some TextArea.delete
  | .tab => some TextArea.insertTab
  | .char c => if modifiers.control || modifiers.alt then none else some (TextArea.insert c)
  | _ => none

/-- A key that is no command: it moves in the focused region, or edits the
    input. -/
def moveOrEdit (key : Key) (modifiers : Modifiers) (e : Editor) : Editor :=
  match move? e.pageRows key with
  | some move => e.mapFocused move
  | none =>
    match e.focus, edit? modifiers key with
    | .input, some edit => { e with input := edit e.input, modified := true }
    | _, _ => e

/-- The command that a key stands for. -/
def command? (key : Key) (modifiers : Modifiers) : Option Flow :=
  match key with
  | .char 'q' => if modifiers.control then some .quit else none
  | .char 'r' => if modifiers.control then some (.execute .run) else none
  | .char 's' => if modifiers.control then some (.execute .save) else none
  | .char 'o' => if modifiers.control then some (.execute .open) else none
  | .function 5 => some (.execute .run)
  | _ => none

/-- A key while nothing is in front of the regions. -/
def pressInRegion (now : Nat) (key : Key) (modifiers : Modifiers) (e : Editor) : Flow × Editor :=
  match command? key modifiers with
  | some flow => (flow, e)
  | none =>
    if key = .char 'c' ∧ modifiers.control then
      let (ends, e) := e.interrupt now
      (if ends then .quit else .proceed, e)
    else if key = .function 1 then (.proceed, e.toggleHelp)
    else if key = .backTab ∨ key = .tab ∧ e.focus = .output then (.proceed, e.toggleFocus)
    else (.proceed, e.moveOrEdit key modifiers)

/-- A key. -/
def press (store : Store) (now : Nat) (key : Key) (modifiers : Modifiers) (e : Editor)
    (disk : Disk) : Flow × Editor × Disk :=
  match e.prompt with
  | some p => (.proceed, e.pressInPrompt store p key modifiers disk)
  | none =>
    if e.help then (.proceed, e.toggleHelp, disk)
    else
      let (flow, e) := e.pressInRegion now key modifiers
      (flow, e, disk)

/-! ## Mouse and paste -/

/-- Gives the focus to the region at a place and moves in it; elsewhere nothing
    happens. -/
def scrollAt (p : Place) (move : TextArea → TextArea) (e : Editor) : Editor :=
  match e.regionAt p with
  | some focus => { e with focus }.mapFocused move
  | none => e

/-- A click: it closes the page of help, and otherwise presses a button or gives
    the focus to a region. -/
def click (p : Place) (e : Editor) : Flow × Editor :=
  if e.help then (.proceed, e.toggleHelp)
  else
    match e.buttonAt p with
    | some command => (.execute command, e)
    | none => (.proceed, e.scrollAt p id)

/-- An action of the mouse; a prompt takes none. -/
def mouse (action : MouseAction) (p : Place) (e : Editor) : Flow × Editor :=
  if e.prompt.isSome then (.proceed, e)
  else
    match action with
    | .press .left => e.click p
    | .scrollUp => (.proceed, e.scrollAt p TextArea.moveUp)
    | .scrollDown => (.proceed, e.scrollAt p TextArea.moveDown)
    | _ => (.proceed, e)

/-- A paste: into the path of a prompt, or into the input if it has the focus. -/
def paste (text : Text) (e : Editor) : Editor :=
  match e.prompt, e.focus with
  | some p, _ => { e with prompt := some (p.paste text) }
  | none, .input => { e with input := e.input.paste text, modified := true }
  | none, .output => e

/-- An event at a time in milliseconds. -/
def handle (store : Store) (now : Nat) (event : Event) (e : Editor) (disk : Disk) :
    Flow × Editor × Disk :=
  match event with
  | .key key modifiers => e.press store now key modifiers disk
  | .mouse action p =>
    let (flow, e) := e.mouse action p
    (flow, e, disk)
  | .paste text => (.proceed, e.paste text, disk)
  | .resize _ _ => (.proceed, e, disk)

end Editor

end Runpad
