/-
  The file of the log.  Working without it is possible, so a fault is only worth
  a warning.  What is written to the log later on is left out, so that all that is
  said of the disk is said of the other files.

  * `Log.prepare` creates the directories of the file and the file itself;
  * `Log.Fault` lists what goes wrong, `Fault.message` is the wording.
-/
import Runpad.Disk.Basic

namespace Runpad.Log

/-- What goes wrong with the file of the log. -/
inductive Fault where
  | directory (path : Path) (cause : Disk.Fault)
  | file (path : Path) (cause : Disk.Fault)
  deriving DecidableEq, Repr

/-- The wording of a fault. -/
def Fault.message : Fault → Text
  | .directory path cause => "creating ".toList ++ path ++ ": ".toList ++ cause.message
  | .file path cause => "opening log file ".toList ++ path ++ ": ".toList ++ cause.message

/-- Creates the directory of a file and those above it. -/
def makeParent (path : Path) (disk : Disk) : Except Fault Disk :=
  match Path.parent? path with
  | none => .ok disk
  | some parent => (disk.makeDirectories parent).mapError (.directory parent)

/-- Creates the file of the log, unless it is there. -/
def prepare (path : Path) (disk : Disk) : Except Fault Disk :=
  makeParent path disk >>= fun disk => (disk.touch path).mapError (.file path)

end Runpad.Log
