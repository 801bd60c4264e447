/-
  Opening and saving whole texts.

  * `Store` knows the extension of files that are saved without one;
  * `Store.target` is the path under which a text is saved;
  * `Store.open` reads a text, `Store.save` writes one and tells where;
  * `Store.Fault` lists what goes wrong, `Fault.message` is the wording.
-/
import Runpad.Disk.Basic

namespace Runpad

/-- How files are opened and saved. -/
structure Store where
  /-- The extension of a file that is saved without one, without its dot. -/
  extension : Text
  deriving DecidableEq, Repr

namespace Store

/-- What goes wrong with a file. -/
inductive Fault where
  | emptyPath
  | notFile (path : Path)
  | read (path : Path) (cause : Disk.Fault)
  | write (path : Path) (cause : Disk.Fault)
  deriving DecidableEq, Repr

/-- The wording of a fault. -/
def Fault.message : Fault → Text
  | .emptyPath => "no file name given".toList
  | .notFile path => '\'' :: path ++ "' is not a file".toList
  | .read path cause => "failed to read '".toList ++ path ++ "': ".toList ++ cause.message
  | .write path cause => "failed to write '".toList ++ path ++ "': ".toList ++ cause.message

/-- What lies behind a fault, if the disk reported it. -/
def Fault.cause? : Fault → Option Disk.Fault
  | .read _ cause | .write _ cause => some cause
  | _ => none

/-- The path under which a text is saved: the extension is added to a name that
    has none. -/
def target (store : Store) (path : Path) : Except Fault Path :=
  if path = [] then .error .emptyPath
  else if Path.hasExtension path || store.extension = [] then .ok path
  else .ok (Path.withExtension store.extension path)

/-- The text of a file. -/
def «open» (path : Path) (disk : Disk) : Except Fault Text :=
  if path = [] then .error .emptyPath
  else if disk.isDirectory path then .error (.notFile path)
  else (disk.readText path).mapError (.read path)

/-- Saves a text: the path of the file, and the disk with the file in it. -/
def save (store : Store) (path : Path) (text : Text) (disk : Disk) : Except Fault (Path × Disk) :=
  store.target path >>= fun target =>
    if disk.isDirectory target then .error (.notFile target)
    else
      ((disk.write target (Utf8.encode text)).mapError (.write target)).map fun disk =>
        (target, disk)

end Store

end Runpad
