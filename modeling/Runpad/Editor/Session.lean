/-
  The editor at work: it draws, takes an event, and draws again.

  * `Editor.drawn` is what drawing changes: the places of the parts and the
    windows onto the two texts;
  * `Session` is an editor with an interpreter, a disk and a screen;
  * `Session.step` takes an event; the answer tells how the screen looked while
    a program ran, if one did, and how it looks after the event, unless the
    event ended the editor.
-/
import Runpad.Editor.Event
import Runpad.TextArea.Viewport

namespace Runpad

/-- The editor after it was drawn on a screen of the given size. -/
def Editor.drawn (width height : Nat) (e : Editor) : Editor :=
  let regions := layout ⟨0, 0, width, height⟩
  { e with
    regions
    input := e.input.scroll regions.input.inner.width regions.input.inner.height
    output := e.output.scroll regions.output.inner.width regions.output.inner.height }

/-- An editor at work. -/
structure Session (σ : Type) where
  editor : Editor
  remote : σ
  disk : Disk
  width : Nat
  height : Nat

/-- What an event leads to. -/
structure Session.Step (σ : Type) where
  /-- The editor while a program ran. -/
  during : Option Editor := none
  /-- The session after the event; none if it ended. -/
  next : Option (Session σ)

namespace Session

variable {σ : Type}

/-- Draws the editor. -/
def draw (s : Session σ) : Session σ :=
  { s with editor := s.editor.drawn s.width s.height }

/-- A session at its first draw, with a file opened if one is named. -/
def start (remote : Remote σ) (r : σ) (disk : Disk) (file : Option Path) (width height : Nat) :
    Session σ :=
  let e := Editor.start (remote.describe r)
  let e := match file with
    | some path => e.openFile (some path) disk
    | none => e
  draw ⟨e, r, disk, width, height⟩

/-- Executes a command. -/
def execute (remote : Remote σ) (command : Command) (s : Session σ) : Option Editor × Session σ :=
  match command with
  | .run =>
    let (program, e) := s.editor.beginRun
    let during := e.drawn s.width s.height
    let (e, r) := during.completeRun remote program s.remote
    (some during, { s with editor := { e with label := remote.describe r }, remote := r })
  | .save => (none, { s with editor := s.editor.ask .save })
  | .open => (none, { s with editor := s.editor.ask .open })

/-- The session on a screen that an event may have given a new size. -/
def resize (event : Event) (s : Session σ) : Session σ :=
  match event with
  | .resize width height => { s with width, height }
  | _ => s

/-- Takes an event at a time in milliseconds. -/
def step (remote : Remote σ) (store : Store) (now : Nat) (event : Event) (s : Session σ) :
    Step σ :=
  let s := s.resize event
  let (flow, editor, disk) := s.editor.handle store now event s.disk
  let s := { s with editor, disk }
  match flow with
  | .quit => { next := none }
  | .proceed => { next := some s.draw }
  | .execute command =>
    let (during, s) := s.execute remote command
    { during, next := some s.draw }

end Session

end Runpad
