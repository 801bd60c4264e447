/-
  What becomes of a command line that starts nothing.

  * `Misuse` lists the faults of a command line, `Misuse.message` the text that
    explains each, with a tip and the usage where they help;
  * `Refusal` is a misuse, or a question for help or for the version.
-/
import Runpad.CommandLine.Usage

namespace Runpad.CommandLine

/-- Why a text is no port. -/
inductive PortFault where
  | empty
  | notDigits
  | tooLarge
  | tooSmall
  /-- A number that is no port. -/
  | outside (n : Int)
  deriving DecidableEq, Repr

/-- What the writer of an unknown word may have meant. -/
inductive Tip where
  /-- An option of the same level. -/
  | option (f : Flag)
  /-- An option of a command that comes later. -/
  | optionOf (level : Level) (f : Flag)
  /-- The word itself, as a value. -/
  | asValue
  /-- A command, which must not follow two dashes. -/
  | command
  deriving DecidableEq, Repr

/-- A fault of a command line. -/
inductive Misuse where
  | unknownArgument (level : Level) (word : Text) (tip : Option Tip) (used : List Slot)
  | unknownCommand (level : Level) (word : Text) (similar : List Text)
  | missingValue (slot : Slot)
  | invalidPort (value : Text) (fault : PortFault)
  | unneededValue (level : Level) (value : Text) (flag : Flag) (used : List Slot)
  | repeated (level : Level) (slot : Slot)
  deriving DecidableEq, Repr

/-- A command line that starts nothing. -/
inductive Refusal where
  | misuse (m : Misuse)
  | help (level : Level)
  | version
  deriving DecidableEq, Repr

/-- A text between single quotes. -/
def inQuotes (t : Text) : Text :=
  '\'' :: t ++ ['\'']

/-- The greatest port. -/
def lastPort : Int := 65535

/-- A number in decimal digits. -/
def intText (n : Int) : Text :=
  (toString n).toList

/-- The wording of a fault in a port. -/
def PortFault.message : PortFault → Text
  | .empty => "cannot parse integer from empty string".toList
  | .notDigits => "invalid digit found in string".toList
  | .tooLarge => "number too large to fit in target type".toList
  | .tooSmall => "number too small to fit in target type".toList
  | .outside n => intText n ++ " is not in 1..=".toList ++ intText lastPort

/-- The wording of a tip about a word. -/
def Tip.message (word : Text) : Tip → Text
  | .option f => "a similar argument exists: ".toList ++ inQuotes ("--".toList ++ f.name)
  | .optionOf level f =>
    inQuotes (level.word ++ " --".toList ++ f.name) ++ " exists".toList
  | .asValue =>
    "to pass ".toList ++ inQuotes word ++ " as a value, use ".toList
      ++ inQuotes ("-- ".toList ++ word)
  | .command =>
    "subcommand ".toList ++ inQuotes word
      ++ " exists; to use it, remove the '--' before it".toList

/-- The tip that names similar commands. -/
def similarCommands : List Text → Option Text
  | [] => none
  | [word] => some ("a similar subcommand exists: ".toList ++ inQuotes word)
  | words =>
    some ("some similar subcommands exist: ".toList ++ ", ".toList.intercalate (words.map inQuotes))

/-- The first line of the explanation. -/
def Misuse.headline : Misuse → Text
  | .unknownArgument _ word _ _ => "unexpected argument ".toList ++ inQuotes word ++ " found".toList
  | .unknownCommand _ word _ => "unrecognized subcommand ".toList ++ inQuotes word
  | .missingValue slot =>
    "a value is required for ".toList ++ inQuotes slot.shown ++ " but none was supplied".toList
  | .invalidPort value fault =>
    "invalid value ".toList ++ inQuotes value ++ " for ".toList ++ inQuotes Flag.port.shown
      ++ ": ".toList ++ fault.message
  | .unneededValue _ value flag _ =>
    "unexpected value ".toList ++ inQuotes value ++ " for ".toList ++ inQuotes flag.shown
      ++ " found; no more were expected".toList
  | .repeated _ slot =>
    "the argument ".toList ++ inQuotes slot.shown ++ " cannot be used multiple times".toList

/-- The tip of the explanation. -/
def Misuse.tip : Misuse → Option Text
  | .unknownArgument _ word tip _ => tip.map (·.message word)
  | .unknownCommand _ _ similar => similarCommands similar
  | _ => none

/-- The usage line of the explanation. -/
def Misuse.usage : Misuse → Option Text
  | .unknownArgument level _ _ used | .unneededValue level _ _ used => some (usageLine level used)
  | .unknownCommand level _ _ | .repeated level _ => some (usageLine level [])
  | .missingValue _ | .invalidPort _ _ => none

/-- The whole explanation. -/
def Misuse.message (m : Misuse) : Text :=
  "error: ".toList ++ m.headline
    ++ (m.tip.map fun tip => "\n\n  tip: ".toList ++ tip).getD []
    ++ (m.usage.map fun usage => "\n\n".toList ++ usage).getD []
    ++ "\n\nFor more information, try '--help'.\n".toList

end Runpad.CommandLine
