/-
  How the program explains its command line.

  * `usageLine` is the line after `Usage:`, general or for the options in use;
  * `helpText` is the page of a level, `versionText` the answer to a question
    for the version.
-/
import Runpad.CommandLine.Spec

namespace Runpad.CommandLine

/-- Words with a blank between them. -/
def spaced (words : List Text) : Text :=
  [' '].intercalate words

/-- The general usage of a level. -/
def generalUsage (level : Level) : Text :=
  spaced <| level.path
    :: (if level.flags = [] then [] else ["[OPTIONS]".toList])
    ++ (level.file?.map fun _ => fileShown true).toList
    ++ (if level.commands = [] then [] else ["[COMMAND]".toList])
    ++ (if level = .help then ["[COMMAND]...".toList] else [])

/-- The usage of a level with the slots in use: the options first, each once,
    and then the file. -/
def usageWith (level : Level) (used : List Slot) : Text :=
  let flags := used.eraseDups.filterMap fun
    | .flag f => some f.shown
    | .file => none
  spaced <| level.path :: flags ++ (level.file?.map fun _ => fileShown (.file ∉ used)).toList

/-- The usage of a level: general if no slot is in use. -/
def usageLine (level : Level) (used : List Slot) : Text :=
  "Usage: ".toList ++ if used = [] then generalUsage level else usageWith level used

/-! ## Help -/

/-- A text filled up with blanks. -/
def padded (width : Nat) (t : Text) : Text :=
  t ++ List.replicate (width - t.length) ' '

/-- A section of a page: a heading and lines of two columns. -/
def pageSection (heading : String) (rows : List (Text × Text)) : List Text :=
  if rows = [] then []
  else
    let width := (rows.map (·.1.length)).foldl max 0
    [[]] ++ [heading.toList] ++
      rows.map fun (name, about) => "  ".toList ++ padded width name ++ "  ".toList ++ about

/-- An option in a list: its letter, or blanks, before its name. -/
def listedFlag (f : Flag) : Text :=
  (match f.letter with
    | some c => ['-', c, ',', ' ']
    | none => List.replicate 4 ' ') ++ f.shown

/-- The page that explains a level. -/
def helpText (level : Level) : Text :=
  let commands := level.commands.map fun c => (c.word, c.about)
  let file := (level.file?.map fun about => (fileShown true, about)).toList
  let words := if level = .help then
    [("[COMMAND]...".toList, "Print help for the subcommand(s)".toList)] else []
  let flags := level.listedFlags.map fun f => (listedFlag f, f.about)
  let lines := [level.about, [], usageLine level []]
    ++ pageSection "Commands:" commands
    ++ pageSection "Arguments:" (file ++ words)
    ++ pageSection "Options:" flags
  lines.flatMap (· ++ ['\n'])

/-- The answer to a question for the version. -/
def versionText : Text :=
  programName ++ ' ' :: version ++ ['\n']

end Runpad.CommandLine
