/-
  What the three commands do to the editor.

  * `beginRun`, `finishRun` and `failRun` are the stages of a run, `runProgram`
    is all of it;
  * `openFile` and `saveFile` do what a prompt asked for; without a path, they
    say that it was cancelled.

  None of them changes more than it says: `input_runProgram` and its neighbours.
-/
import Runpad.Editor.Basic
import Runpad.Remote
import Runpad.Store

namespace Runpad.Editor

/-! ## Running -/

/-- Empties the output and gives the program to submit. -/
def beginRun (e : Editor) : Text × Editor :=
  (programText e.input.text,
    { e with output := .ofText [], runState := .submitting }.info "Running…".toList)

/-- The number of lines of a result; an empty one has none. -/
def resultLines (shown : Text) : Nat :=
  if shown = [] then 0 else shown.count '\n' + 1

/-- Shows a result. -/
def finishRun (outcome : Outcome) (e : Editor) : Editor :=
  { e with output := .ofText outcome.shown, runState := .idle }.info
    s!"Run finished ({resultLines outcome.shown} line(s))".toList

/-- Shows why there is no result. -/
def failRun (message : Text) (e : Editor) : Editor :=
  { e with runState := .idle }.error ("Run failed: ".toList ++ message)

variable {σ : Type}

/-- Submits a program and shows what comes of it. -/
def completeRun (remote : Remote σ) (program : Text) (e : Editor) (s : σ) : Editor × σ :=
  match remote.execute program s with
  | (.ok outcome, s) => (e.finishRun outcome, s)
  | (.error fault, s) => (e.failRun fault.message, s)

/-- Runs the input. -/
def runProgram (remote : Remote σ) (e : Editor) (s : σ) : Editor × σ :=
  let (program, e) := e.beginRun
  e.completeRun remote program s

/-! ## Files -/

/-- Replaces the input by the text of a file. -/
def loadText (path : Path) (text : Text) (e : Editor) : Editor :=
  { e with input := .ofText text, path := some path, modified := false, focus := .input }.info
    ("Opened ".toList ++ path)

/-- Remembers that the input is in a file. -/
def markSaved (path : Path) (e : Editor) : Editor :=
  { e with path := some path, modified := false }.info ("Saved ".toList ++ path)

/-- Opens a file. -/
def openFile (path : Option Path) (disk : Disk) (e : Editor) : Editor :=
  match path with
  | none => e.info "Open cancelled".toList
  | some path =>
    match Store.open path disk with
    | .ok text => e.loadText path text
    | .error fault => e.error fault.message

/-- Saves the input. -/
def saveFile (store : Store) (path : Option Path) (e : Editor) (disk : Disk) : Editor × Disk :=
  match path with
  | none => (e.info "Save cancelled".toList, disk)
  | some path =>
    match store.save path e.input.text disk with
    | .ok (target, disk) => (e.markSaved target, disk)
    | .error fault => (e.error fault.message, disk)

/-! ## What stays -/

@[simp] theorem input_completeRun (remote : Remote σ) (program : Text) (e : Editor) (s : σ) :
    (e.completeRun remote program s).1.input = e.input := by
  unfold completeRun
  split <;> rfl

@[simp] theorem input_runProgram (remote : Remote σ) (e : Editor) (s : σ) :
    (e.runProgram remote s).1.input = e.input := by
  simp [runProgram, beginRun, info]

end Runpad.Editor
