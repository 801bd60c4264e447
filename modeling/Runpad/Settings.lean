/-
  The settings of the program.

  A setting is a key with a value.  There are built-in ones, those of a settings
  file, and variables of the environment whose name starts like a key; a later
  one of these wins.

  * `Settings` keeps the entries in increasing order of their keys; `get?` looks
    one up, `set` adds or replaces one;
  * `parseLine` reads a line of a settings file, `fileEntries` all of a file up to
    the first line that is no text;
  * `load` puts the three sources together;
  * `host`, `port`, `address` and their neighbours are what the program uses.
-/
import Runpad.Disk.Basic
import Runpad.Environment
import Runpad.Number.Integer
import Runpad.Text.Blank
import Runpad.Text.Lines

namespace Runpad

/-- Keys with values, in increasing order of the keys. -/
structure Settings where
  entries : List (Text × Text) := []
  deriving DecidableEq, Repr

namespace Settings

/-! ## Entries -/

/-- Puts a value under a key into entries that are in order. -/
def insert (key value : Text) : List (Text × Text) → List (Text × Text)
  | [] => [(key, value)]
  | (other, old) :: rest =>
    if key = other then (key, value) :: rest
    else if key < other then (key, value) :: (other, old) :: rest
    else (other, old) :: insert key value rest

/-- Puts a value under a key. -/
def set (key value : Text) (s : Settings) : Settings :=
  ⟨insert key value s.entries⟩

/-- The value under a key. -/
def get? (s : Settings) (key : Text) : Option Text :=
  (s.entries.find? (·.1 = key)).map (·.2)

/-- Puts values under keys, one after the other. -/
def setAll (entries : List (Text × Text)) (s : Settings) : Settings :=
  entries.foldl (fun s (key, value) => s.set key value) s

/-! ## Keys -/

/-- How the keys of the program start. -/
def keyStart : Text := "FLEXCODE_".toList

def hostKey : Text := "FLEXCODE_GATEWAY_HOST".toList
def portKey : Text := "FLEXCODE_GATEWAY_PORT".toList
def entryPointKey : Text := "FLEXCODE_ENTRY_POINT".toList
def submitKey : Text := "FLEXCODE_SUBMIT_METHOD".toList
def resultKey : Text := "FLEXCODE_RESULT_METHOD".toList
def extensionKey : Text := "FLEXCODE_DEFAULT_EXTENSION".toList
def logKey : Text := "FLEXCODE_LOG".toList
def logPathKey : Text := "FLEXCODE_LOG_PATH".toList

/-! ## Built-in settings -/

/-- The port of the gateway unless a setting says otherwise. -/
def defaultPort : Nat := 25530

/-- The host of the gateway unless a setting says otherwise. -/
def defaultHost : Text := "127.0.0.1".toList

/-- The directory of the program below another one. -/
def ownDirectory : Path := "flexcode".toList

/-- Where the log goes unless a setting says otherwise. -/
def defaultLogPath (env : Environment) : Path :=
  Path.beside (Path.beside env.temporaryDirectory ownDirectory) "flexcode.log".toList

/-- The built-in settings. -/
def builtIn (env : Environment) : List (Text × Text) :=
  [(hostKey, defaultHost), (portKey, Number.digits defaultPort), (entryPointKey, ['t']),
    (submitKey, "set_text".toList), (resultKey, "get_result".toList),
    (extensionKey, "txt".toList), (logKey, "warn".toList), (logPathKey, defaultLogPath env)]

/-! ## The settings file -/

/-- Where the settings file is unless another one is named. -/
def defaultFile (env : Environment) : Path :=
  Path.beside (Path.beside env.configDirectory ownDirectory) ".flexcoderc".toList

/-- The entry of a line: a key and a value around the first equals sign.  A line
    that starts with a number sign is a comment. -/
def parseLine (line : Text) : Option (Text × Text) :=
  let line := Text.trim line
  if line.head? = some '#' then none
  else
    match line.dropWhile (· ≠ '=') with
    | [] => none
    | _ :: value => some (Text.trim (line.takeWhile (· ≠ '=')), Text.trim value)

/-- The lines of bytes: cut after each line feed, which is left out, as is an
    empty last line. -/
def byteLines (content : Bytes) : List Bytes :=
  let (line, later) := content.foldr (fun b (line, later) =>
    if b = 10 then ([], line :: later) else (b :: line, later)) ([], [])
  let all := line :: later
  if all.getLast? = some [] then all.dropLast else all

/-- The lines before the first one that is no text. -/
def textLines (content : Bytes) : List Text :=
  ((byteLines content).map Utf8.decode?).takeWhile Option.isSome |>.filterMap id

/-- The entries of a settings file. -/
def fileEntries (content : Bytes) : List (Text × Text) :=
  (textLines content).filterMap parseLine

/-! ## Loading -/

/-- The variables that are settings. -/
def variableEntries (env : Environment) : List (Text × Text) :=
  env.bindings.filter fun (name, _) => keyStart.isPrefixOf name

/-- The settings for the given content of the settings file, if there is one. -/
def load (env : Environment) (content : Option Bytes) : Settings :=
  setAll (builtIn env ++ fileEntries (content.getD []) ++ variableEntries env) {}

/-- The settings with the settings file read from a disk. -/
def loadFrom (file : Path) (env : Environment) (disk : Disk) : Settings :=
  load env (disk.read file).toOption

/-! ## What the program uses -/

/-- The host of the gateway; a blank one does not count. -/
def host (s : Settings) : Text :=
  ((s.get? hostKey).filter fun h => Text.trim h ≠ []).getD defaultHost

/-- The port of the gateway; a text that is no port does not count. -/
def port (s : Settings) : Nat :=
  ((s.get? portKey).bind fun t => Number.word? (Text.trim t)).getD defaultPort

/-- The address of the gateway. -/
def address (s : Settings) : Text :=
  s.host ++ ':' :: Number.digits s.port

/-- The target of the calls. -/
def entryPoint (s : Settings) : Text :=
  (s.get? entryPointKey).getD ['t']

/-- The method that takes a program. -/
def submitMethod (s : Settings) : Text :=
  (s.get? submitKey).getD "set_text".toList

/-- The method that gives a result. -/
def resultMethod (s : Settings) : Text :=
  (s.get? resultKey).getD "get_result".toList

/-- The extension of files that are saved without one, without leading dots. -/
def extension (s : Settings) : Text :=
  ((s.get? extensionKey).map fun t => (Text.trim t).dropWhile (· = '.')).getD "txt".toList

/-- How much is written to the log.  The records of the log are left out here, so that
    nothing depends on it. -/
def logLevel (s : Settings) : Text :=
  (s.get? logKey).getD "warn".toList

/-- Where the log goes. -/
def logPath (env : Environment) (s : Settings) : Path :=
  (s.get? logPathKey).getD (defaultLogPath env)

end Settings

end Runpad
