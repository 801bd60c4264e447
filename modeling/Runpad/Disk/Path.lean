/-
  Paths of files, as they are written.

  A path is read piece by piece, the pieces parted by slashes.  An empty piece
  or a single dot leads nowhere, so at the end of a path such pieces do not
  count.

  * `fileName?` is the last piece that counts, unless it leads to the parent;
    `hasExtension` asks for a dot after the first character of it;
  * `withExtension` puts an extension behind the file name, and drops what
    follows it;
  * `beside` (a path in a directory) and `parent?` go down and up.
-/
import Runpad.Text.Ranges

namespace Runpad

/-- A path as it is written.  A system may let a path be any bytes; here it is a text,
    and paths that are none are left out. -/
abbrev Path := List Char

namespace Path

/-- The first piece of a path and the later ones. -/
def split : Path → Text × List Text
  | [] => ([], [])
  | c :: rest =>
    let (piece, later) := split rest
    if c = '/' then ([], piece :: later) else (c :: piece, later)

/-- The pieces of a path, at least one. -/
def pieces (p : Path) : List Text :=
  (split p).1 :: (split p).2

/-- The path with the given pieces. -/
def ofPieces (pieces : List Text) : Path :=
  ['/'].intercalate pieces

/-- The piece that leads to the parent. -/
def up : Text := "..".toList

/-- Whether a piece leads nowhere. -/
def isIdle (piece : Text) : Bool :=
  piece = [] || piece = ['.']

/-- The pieces of a path up to the last one that counts. -/
def solid (p : Path) : List Text :=
  (p.pieces.reverse.dropWhile isIdle).reverse

/-- Whether a path starts at the root. -/
def isAbsolute (p : Path) : Bool :=
  p.head? = some '/'

/-- The name of the file that a path leads to. -/
def fileName? (p : Path) : Option Text :=
  (solid p).getLast?.filter (· ≠ up)

/-- Whether a name has a dot after its first character. -/
def hasLaterDot (name : Text) : Bool :=
  '.' ∈ name.drop 1

/-- Whether a path leads to a file with an extension. -/
def hasExtension (p : Path) : Bool :=
  (fileName? p).any hasLaterDot

/-- The path with an extension behind its file name; a path without a file name
    stays as it is. -/
def withExtension (extension : Text) (p : Path) : Path :=
  match fileName? p with
  | some _ => ofPieces (solid p) ++ '.' :: extension
  | none => p

/-- A path as seen from a directory; an absolute one does not depend on it. -/
def beside (directory path : Path) : Path :=
  if isAbsolute path || directory = [] then path
  else if directory.getLast? = some '/' then directory ++ path
  else directory ++ '/' :: path

/-- The directory of the last piece that counts; none for the root and for an
    empty path. -/
def parent? (p : Path) : Option Path :=
  match (solid p).reverse with
  | [] => if p.pieces.any (· = ['.']) && !isAbsolute p then some [] else none
  | _ :: earlier =>
    let kept := earlier.dropWhile isIdle
    some <| if kept = [] then
        (if isAbsolute p then ['/'] else if earlier.getLast? = some ['.'] then ['.'] else [])
      else ofPieces kept.reverse

/-- Whether a path is a single name, slashes and dots after it apart. -/
def isJust (name : Text) (p : Path) : Bool :=
  solid p = [name]

end Path

end Runpad
