/-
  The files and directories that the program can reach.

  * `Disk` is a list of places, each with a directory or the bytes of a file;
    a place is the list of names that lead to it from the root;
  * `locate` follows a path, as far as each step is a directory;
  * `node?`, `isDirectory` and `read` look at a path, `write` replaces or creates
    a file, `makeDirectories` creates what is missing of a path;
  * `Disk.Fault` lists what goes wrong, `Fault.message` is the wording;
  * `at?_put`, `at?_put_of_ne`: what was put at a place is there, and all other
    places are as before.
-/
import Runpad.Disk.Path
import Runpad.Text.Utf8

namespace Runpad

/-- What a place holds. -/
inductive Node where
  | directory
  | file (content : Bytes)
  deriving DecidableEq, Repr

/-- The files and directories, and the directory that relative paths start
    from. -/
structure Disk where
  current : List Text
  nodes : List (List Text × Node)
  deriving DecidableEq, Repr

namespace Disk

/-- What goes wrong with a path. -/
inductive Fault where
  | notFound
  | notDirectory
  | isDirectory
  | exists
  | nameTooLong
  /-- The path holds a character that ends names. -/
  | nulInName
  /-- The file holds no text. -/
  | notText
  deriving DecidableEq, Repr

/-- The wording of a fault. -/
def Fault.message : Fault → Text
  | .notFound => "No such file or directory (os error 2)".toList
  | .notDirectory => "Not a directory (os error 20)".toList
  | .isDirectory => "Is a directory (os error 21)".toList
  | .exists => "File exists (os error 17)".toList
  | .nameTooLong => "File name too long (os error 36)".toList
  | .nulInName => "file name contained an unexpected NUL byte".toList
  | .notText => "stream did not contain valid UTF-8".toList

/-! ## Places -/

/-- What a place holds; the root is a directory. -/
def at? (d : Disk) (place : List Text) : Option Node :=
  if place = [] then some .directory else (d.nodes.find? (·.1 = place)).map (·.2)

/-- The disk with something else at a place, which may be new. -/
def put (place : List Text) (node : Node) (d : Disk) : Disk :=
  if d.nodes.any (·.1 = place) then
    { d with nodes := d.nodes.map fun entry => if entry.1 = place then (place, node) else entry }
  else { d with nodes := d.nodes ++ [(place, node)] }

/-! ## Following a path -/

/-- The length in bytes after which a name is too long. -/
def maxName : Nat := 255

/-- The length in bytes from which on a path is too long. -/
def pathLimit : Nat := 4096

/-- One step from a place: it must be a directory. -/
def step (d : Disk) (place : List Text) (piece : Text) : Except Fault (List Text) :=
  match d.at? place with
  | none => .error .notFound
  | some (.file _) => .error .notDirectory
  | some .directory =>
    if Path.isIdle piece then .ok place
    else if piece = Path.up then .ok place.dropLast
    else if maxName < (Utf8.encode piece).length then .error .nameTooLong
    else .ok (place ++ [piece])

/-- Follows pieces from the root or from the current directory. -/
def walk (d : Disk) (absolute : Bool) (pieces : List Text) : Except Fault (List Text) :=
  pieces.foldlM d.step (if absolute then [] else d.current)

/-- A path that can be followed at all. -/
def checkPath (p : Path) : Except Fault Unit :=
  if '\x00' ∈ p then .error .nulInName
  else if p = [] then .error .notFound
  else if pathLimit ≤ (Utf8.encode p).length then .error .nameTooLong
  else .ok ()

/-- The place that a path leads to; what is there is not looked at. -/
def locate (d : Disk) (p : Path) : Except Fault (List Text) :=
  checkPath p >>= fun () => d.walk (Path.isAbsolute p) p.pieces

/-- What a path leads to. -/
def node? (d : Disk) (p : Path) : Except Fault Node :=
  d.locate p >>= fun place =>
    match d.at? place with
    | some node => .ok node
    | none => .error .notFound

/-- Whether a path leads to something. -/
def holds (d : Disk) (p : Path) : Bool :=
  (d.node? p).toOption.isSome

/-- Whether a path leads to a directory. -/
def isDirectory (d : Disk) (p : Path) : Bool :=
  (d.node? p).toOption = some .directory

/-! ## Reading and writing -/

/-- The bytes of a file. -/
def read (d : Disk) (p : Path) : Except Fault Bytes :=
  d.node? p >>= fun
    | .file content => .ok content
    | .directory => .error .isDirectory

/-- The text of a file. -/
def readText (d : Disk) (p : Path) : Except Fault Text :=
  d.read p >>= fun content =>
    match Utf8.decode? content with
    | some t => .ok t
    | none => .error .notText

/-- The place at which a path wants a file; a slash at the end asks for a
    directory instead, in a directory that is there. -/
def locateFile (d : Disk) (p : Path) : Except Fault (List Text) :=
  if p.getLast? = some '/' then
    let above := (p.pieces.reverse.dropWhile (· = [])).tail.reverse
    checkPath p >>= fun () =>
      d.walk (Path.isAbsolute p) (above ++ [[]]) >>= fun _ => .error .isDirectory
  else d.locate p

/-- Puts bytes into the file of a path, which is created if need be. -/
def write (p : Path) (content : Bytes) (d : Disk) : Except Fault Disk :=
  d.locateFile p >>= fun place =>
    match d.at? place with
    | some .directory => .error .isDirectory
    | _ => .ok (d.put place (.file content))

/-- Creates the file of a path, empty, unless it is there. -/
def touch (p : Path) (d : Disk) : Except Fault Disk :=
  match d.read p with
  | .ok _ => .ok d
  | .error _ => d.write p []

/-- Creates the directory of a path, in a directory that is there. -/
def makeDirectory (p : Path) (d : Disk) : Except Fault Disk :=
  d.locate p >>= fun place =>
    match d.at? place with
    | some _ => .error .exists
    | none => .ok (d.put place .directory)

/-- Creates the directory of a path and all that lead to it, for `fuel` steps
    up. -/
def makeDirectoriesUp : Nat → Path → Disk → Except Fault Disk
  | 0, _, d => .ok d
  | fuel + 1, p, d =>
    if p = [] then .ok d
    else
      match d.makeDirectory p with
      | .ok d => .ok d
      | .error .notFound =>
        match Path.parent? p with
        | none => .error .notFound
        | some parent => makeDirectoriesUp fuel parent d >>= fun d => orPresent p d (d.makeDirectory p)
      | .error fault => orPresent p d (.error fault)
where
  /-- A directory that cannot be created may be there already. -/
  orPresent (p : Path) (d : Disk) (made : Except Fault Disk) : Except Fault Disk :=
    match made with
    | .ok d => .ok d
    | .error fault => if d.isDirectory p then .ok d else .error fault

/-- Creates the directory of a path and all that lead to it. -/
def makeDirectories (p : Path) (d : Disk) : Except Fault Disk :=
  makeDirectoriesUp (p.length + 1) p d

/-! ## What was put -/

theorem find?_replace {nodes : List (List Text × Node)} {place : List Text} (node : Node)
    (h : ∃ entry ∈ nodes, entry.1 = place) :
    (nodes.map fun entry => if entry.1 = place then (place, node) else entry).find?
      (·.1 = place) = some (place, node) := by
  induction nodes with
  | nil => simp at h
  | cons first rest ih =>
    by_cases hf : first.1 = place
    · simp [hf]
    · have : ∃ entry ∈ rest, entry.1 = place := by simpa [hf] using h
      simpa [hf] using ih this

theorem find?_replace_of_ne {nodes : List (List Text × Node)} {place other : List Text}
    (h : other ≠ place) (node : Node) :
    (nodes.map fun entry => if entry.1 = place then (place, node) else entry).find?
      (·.1 = other) = nodes.find? (·.1 = other) := by
  induction nodes with
  | nil => rfl
  | cons first rest ih =>
    by_cases hf : first.1 = place
    · have : first.1 ≠ other := fun e => h (e ▸ hf)
      rw [List.map_cons, if_pos hf, List.find?_cons_of_neg (by simpa using Ne.symm h),
        List.find?_cons_of_neg (by simpa using this), ih]
    · rw [List.map_cons, if_neg hf, List.find?_cons, List.find?_cons, ih]

/-- What was put at a place is there. -/
theorem at?_put (d : Disk) {place : List Text} (h : place ≠ []) (node : Node) :
    (d.put place node).at? place = some node := by
  unfold put
  split
  · next hany =>
    have : ∃ entry ∈ d.nodes, entry.1 = place := by simpa using hany
    simp [at?, h, find?_replace node this]
  · next hany =>
    have : d.nodes.find? (·.1 = place) = none :=
      List.find?_eq_none.2 fun entry he hp => hany (List.any_eq_true.2 ⟨entry, he, hp⟩)
    simp [at?, h, List.find?_append, this]

/-- All other places are as before. -/
theorem at?_put_of_ne (d : Disk) {place other : List Text} (h : other ≠ place) (node : Node) :
    (d.put place node).at? other = d.at? other := by
  unfold put
  split
  · simp [at?, find?_replace_of_ne h]
  · cases hd : d.nodes.find? (·.1 = other) <;> simp [at?, List.find?_append, hd, Ne.symm h]

end Disk

end Runpad
