/-
  The command line that the program accepts.

  * `Level` is the program itself or one of its commands, `Flag` an option and
    `Slot` whatever a word can fill: an option or the file;
  * `Level.flags`, `Level.file?` and `Level.commands` say what a level accepts;
  * `Slot.shown` is how a slot is written in a usage line.
-/
import Runpad.Text.Ranges

namespace Runpad.CommandLine

/-- The name of the program. -/
def programName : Text := "flexcode".toList

/-- The version of the program. -/
def version : Text := "0.1.0".toList

/-- The program itself and its commands. -/
inductive Level where
  | editor
  | run
  | config
  | help
  deriving DecidableEq, Repr

/-- The options. -/
inductive Flag where
  | host
  | port
  | raw
  | help
  | version
  deriving DecidableEq, Repr

/-- What a word of the command line can fill. -/
inductive Slot where
  | file
  | flag (f : Flag)
  deriving DecidableEq, Repr

/-- The long name of an option, after its two dashes. -/
def Flag.name : Flag → Text
  | .host => "host".toList
  | .port => "port".toList
  | .raw => "raw".toList
  | .help => "help".toList
  | .version => "version".toList

/-- The letter of an option that has one. -/
def Flag.letter : Flag → Option Char
  | .help => some 'h'
  | .version => some 'V'
  | _ => none

/-- The name of an option's value, if it takes one. -/
def Flag.valueName : Flag → Option Text
  | .host => some "HOST".toList
  | .port => some "PORT".toList
  | _ => none

/-- What an option does. -/
def Flag.about : Flag → Text
  | .host => "Interpreter gateway host (overrides FLEXCODE_GATEWAY_HOST)".toList
  | .port => "Interpreter gateway port (overrides FLEXCODE_GATEWAY_PORT)".toList
  | .raw => "Print the interpreter reply as-is, without splitting on commas".toList
  | .help => "Print help".toList
  | .version => "Print version".toList

/-- The options of a level, in the order in which they are looked up. -/
def Level.flags : Level → List Flag
  | .editor => [.host, .port, .help, .version]
  | .run => [.raw, .host, .port, .help]
  | .config => [.host, .port, .help]
  | .help => []

/-- The options of a level, in the order in which they are listed. -/
def Level.listedFlags : Level → List Flag
  | .run => [.host, .raw, .port, .help]
  | level => level.flags

/-- What the file of a level is, if it takes one. -/
def Level.file? : Level → Option Text
  | .editor => some "File to open in the editor".toList
  | .run => some "Program file; reads stdin when omitted or \"-\"".toList
  | _ => none

/-- The word that stands for a command. -/
def Level.word : Level → Text
  | .editor => programName
  | .run => "run".toList
  | .config => "config".toList
  | .help => "help".toList

/-- The words that lead to a level. -/
def Level.path : Level → Text
  | .editor => programName
  | level => programName ++ ' ' :: level.word

/-- What a level does. -/
def Level.about : Level → Text
  | .editor => "FLEX code editor with a remote interpreter".toList
  | .run => "Run a program once without the editor and print the result".toList
  | .config => "Print the effective configuration".toList
  | .help => "Print this message or the help of the given subcommand(s)".toList

/-- The commands of a level. -/
def Level.commands : Level → List Level
  | .editor => [.run, .config, .help]
  | _ => []

/-- The command of a level with the given word. -/
def Level.command? (level : Level) (word : Text) : Option Level :=
  level.commands.find? (·.word = word)

/-- The option of a level with the given long name. -/
def Level.flag? (level : Level) (name : Text) : Option Flag :=
  level.flags.find? (·.name = name)

/-- The option of a level with the given letter. -/
def Level.letter? (level : Level) (letter : Char) : Option Flag :=
  level.flags.find? (·.letter = some letter)

/-- An option as it is written, with its value. -/
def Flag.shown (f : Flag) : Text :=
  "--".toList ++ f.name ++ (f.valueName.map fun v => " <".toList ++ v ++ ">".toList).getD []

/-- The file in a usage line: in brackets when it may be left out. -/
def fileShown (optional : Bool) : Text :=
  (if optional then "[FILE]" else "<FILE>").toList

/-- A slot as messages name it. -/
def Slot.shown : Slot → Text
  | .file => fileShown true
  | .flag f => f.shown

end Runpad.CommandLine
