/-
  The environment of the program: variables, and the home directory of the
  account.

  * `value?` looks up a variable;
  * `home`, `configDirectory` and `temporaryDirectory` are the directories that
    some variables choose.
-/
import Runpad.Disk.Path

namespace Runpad

/-- Variables with their values, and the home directory of the account that runs
    the program.  Names and values are texts; an environment with a variable that is
    none, in which no settings can be loaded, is left out. -/
structure Environment where
  bindings : List (Text × Text) := []
  accountHome : Path := "/root".toList
  deriving DecidableEq, Repr

namespace Environment

/-- The value of a variable. -/
def value? (env : Environment) (name : Text) : Option Text :=
  (env.bindings.find? (·.1 = name)).map (·.2)

/-- The home directory: the one of the account, unless a variable names
    another. -/
def home (env : Environment) : Path :=
  match env.value? "HOME".toList with
  | none | some [] => env.accountHome
  | some path => path

/-- The directory of settings: a variable counts if it holds an absolute path. -/
def configDirectory (env : Environment) : Path :=
  match (env.value? "XDG_CONFIG_HOME".toList).filter Path.isAbsolute with
  | some path => path
  | none => Path.beside env.home ".config".toList

/-- The directory of temporary files. -/
def temporaryDirectory (env : Environment) : Path :=
  (env.value? "TMPDIR".toList).getD "/tmp".toList

end Environment

end Runpad
