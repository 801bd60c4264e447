/-
  The whole program: what the words after its name make it do.

  * `Start` is what is known once the words, the settings and the log are dealt
    with; `Start.read` gets there, or explains why it cannot;
  * `Start.exit` does what needs no editor: it runs one program or lists the
    settings;
  * `Start.session` is the editor at its first draw, for a program that has a
    terminal;
  * `Exit` is what the program leaves behind: a code and what it wrote.
-/
import Runpad.CommandLine.Parse
import Runpad.Editor.Session
import Runpad.Headless
import Runpad.Log
import Runpad.Report

namespace Runpad

/-- What the program leaves behind. -/
structure Exit where
  code : Nat := 0
  output : Text := []
  errors : Text := []
  deriving DecidableEq, Repr

/-- Whether what is written may be in colour. -/
structure Colours where
  output : Bool := false
  errors : Bool := false
  deriving DecidableEq, Repr

/-- The program after it has read its words and its settings. -/
structure Start where
  arguments : CommandLine.Arguments
  /-- The settings file, which may be missing. -/
  file : Path
  settings : Settings
  /-- What is wrong with the log. -/
  warning : Option Log.Fault
  disk : Disk
  deriving Repr

/-- The settings with those that the command line names. -/
def Settings.override (a : CommandLine.Arguments) (s : Settings) : Settings :=
  s.setAll ((a.host.map fun host => (hostKey, host)).toList ++
    (a.port.map fun port => (portKey, Number.digits port)).toList)

/-- What the program answers to a command line that starts nothing. -/
def CommandLine.Refusal.exit : CommandLine.Refusal → Exit
  | .help level => { output := CommandLine.helpText level }
  | .version => { output := CommandLine.versionText }
  | .misuse m => { code := 2, errors := m.message }

namespace Start

/-- Reads the words after the name of the program, loads the settings, and
    prepares the log. -/
def read (words : List Text) (env : Environment) (disk : Disk) :
    Except CommandLine.Refusal Start :=
  (CommandLine.parse words).map fun arguments =>
    let file := Settings.defaultFile env
    let settings := (Settings.loadFrom file env disk).override arguments
    let (warning, disk) :=
      match Log.prepare (settings.logPath env) disk with
      | .ok disk => (none, disk)
      | .error fault => (some fault, disk)
    { arguments, file, settings, warning, disk }

/-- The line that warns of the fault of the log. -/
def warningLine (start : Start) : Text :=
  (start.warning.map fun fault => "warning: ".toList ++ fault.message ++ ['\n']).getD []

/-- The end of a program that failed. -/
def failure (colours : Colours) (message : Text) (start : Start) : Exit :=
  { code := 1, errors := start.warningLine ++ Report.error colours.errors message }

/-- The list of the settings, after a line that names their file. -/
def listing (colours : Colours) (start : Start) : Text :=
  let source := if start.disk.holds start.file then [] else " (not present)".toList
  Report.info colours.output "# config file:".toList (start.file ++ source) ++
    start.settings.entries.flatMap fun (key, value) => key ++ '=' :: value ++ ['\n']

/-- Does what needs no editor; the editor itself asks for a terminal. -/
def exit {σ : Type} (peer : Gateway.Peer σ) (answers : Gateway.Endpoint → Bool)
    (colours : Colours) (input : Bytes) (start : Start) (s : σ) : Exit × σ :=
  match start.arguments.task with
  | .edit => (start.failure colours "the editor requires a terminal".toList, s)
  | .config => ({ output := start.listing colours, errors := start.warningLine }, s)
  | .run file raw =>
    match Headless.run peer answers start.settings file raw input start.disk s with
    | (.ok text, s) => ({ output := Report.result text, errors := start.warningLine }, s)
    | (.error fault, s) => (start.failure colours fault.message, s)

/-- The store of the editor. -/
def store (start : Start) : Store :=
  ⟨start.settings.extension⟩

/-- The editor on a terminal of the given size, with a connection if there can
    be one. -/
def session {σ : Type} (peer : Gateway.Peer σ) (answers : Gateway.Endpoint → Bool)
    (width height : Nat) (start : Start) (s : σ) : Session (Gateway.Client × σ) :=
  let client := Gateway.Client.connectOrOffline answers start.settings.address
    (Headless.entryPoint start.settings)
  Session.start (Gateway.Client.remote peer) (client, s) start.disk start.arguments.file width height

/-- The end of an editor that was left. -/
def left (start : Start) : Exit :=
  { errors := start.warningLine }

end Start

end Runpad
