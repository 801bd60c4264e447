/-
  Running one program without the editor.

  * `readProgram` takes the program from a file or from the standard input;
  * `runWith` runs it on an interpreter, `run` first makes the connection;
  * `Headless.Fault` lists what goes wrong, `Fault.message` names the fault and
    what lies behind it.
-/
import Runpad.Gateway.Client
import Runpad.Settings
import Runpad.Store

namespace Runpad.Headless

/-- What goes wrong in a run without the editor. -/
inductive Fault where
  /-- The file cannot be read. -/
  | store (fault : Store.Fault)
  /-- The standard input is no text. -/
  | input (fault : Disk.Fault)
  /-- There is no connection. -/
  | gateway (fault : Gateway.Fault)
  /-- The run failed on the interpreter that is described. -/
  | run (via : Text) (fault : Gateway.Fault)
  deriving DecidableEq, Repr

/-- A message and what lies behind it. -/
def withCause (message : Text) (cause : Option Text) : Text :=
  message ++ (cause.map fun cause => ": ".toList ++ cause).getD []

/-- The wording of a fault. -/
def Fault.message : Fault → Text
  | .store fault => withCause fault.message (fault.cause?.map Disk.Fault.message)
  | .input fault => withCause "reading program from stdin".toList (some fault.message)
  | .gateway fault => withCause fault.message fault.cause?
  | .run via fault =>
    withCause ("running program via ".toList ++ via) (some (withCause fault.message fault.cause?))

/-- The path that stands for the standard input. -/
def standardInput : Text := ['-']

/-- The program of a file; without a file, of the standard input. -/
def readProgram (file : Option Path) (input : Bytes) (disk : Disk) : Except Fault Text :=
  match file.filter fun path => !Path.isJust standardInput path with
  | some path => ((Store.open path disk).mapError .store).map programText
  | none =>
    match Utf8.decode? input with
    | some t => .ok (programText t)
    | none => .error (.input .notText)

/-- Runs a program; the answer is the reply as it came, or its text for
    display. -/
def runWith {σ : Type} (remote : Remote σ) (program : Text) (raw : Bool) (s : σ) :
    Except Fault Text × σ :=
  match remote.execute program s with
  | (.ok outcome, s) => (.ok (if raw then outcome.raw else outcome.shown), s)
  | (.error fault, s) => (.error (.run (remote.describe s) fault), s)

/-- The names of the calls that the settings choose. -/
def entryPoint (settings : Settings) : Gateway.EntryPoint :=
  ⟨settings.entryPoint, settings.submitMethod, settings.resultMethod⟩

/-- Reads a program, connects to the gateway of the settings, and runs it. -/
def run {σ : Type} (peer : Gateway.Peer σ) (answers : Gateway.Endpoint → Bool)
    (settings : Settings) (file : Option Path) (raw : Bool) (input : Bytes) (disk : Disk) (s : σ) :
    Except Fault Text × σ :=
  match readProgram file input disk with
  | .error fault => (.error fault, s)
  | .ok program =>
    match Gateway.Client.connect answers settings.address (entryPoint settings) with
    | .error fault => (.error (.gateway fault), s)
    | .ok client =>
      let (result, _, s) := runWith (Gateway.Client.remote peer) program raw (client, s)
      (result, s)

end Runpad.Headless
