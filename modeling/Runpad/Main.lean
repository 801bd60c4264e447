/-
  The program: files, the terminal and the gateway for the library.

  The library works on a value of the disk and on a transcript of what a gateway
  said.  So the paths that a step may use are looked up before it, what it
  changed is written after it, and a step that waits for a line of the gateway
  is taken again from its start once the line has come.

  The terminal has to pass on keys as they are typed, without showing them.
-/
import Runpad.Editor.Picture
import Runpad.Gateway.Transcript
import Runpad.Program
import Runpad.Terminal.Keys
import Runpad.Terminal.Paint
import Std.Async.TCP
import Std.Internal.UV.System

namespace Runpad

open Gateway (Transcript Endpoint)

/-! ## Files -/

def fileAt (place : List Text) : String :=
  String.ofList ('/' :: Path.ofPieces place)

/-- The disk with what is really at a place.  Below a file there is nothing. -/
def lookAt (place : List Text) (d : Disk) : IO Disk := do
  match d.at? place.dropLast with
  | some (.file _) => return d
  | _ =>
    try
      let content ← IO.FS.readBinFile (fileAt place)
      return d.put place (.file content.toList)
    catch
      | .inappropriateType .. => return d.put place .directory
      | _ => return d

/-- The disk with all that a path leads through. -/
def lookUp (d : Disk) (path : Path) : IO Disk := do
  let mut place := if Path.isAbsolute path then [] else d.current
  let mut d := d
  for n in [0:place.length] do
    d ← lookAt (place.take (n + 1)) d
  for piece in (Path.pieces path).filter fun piece => !Path.isIdle piece do
    place := if piece = Path.up then place.dropLast else place ++ [piece]
    d ← lookAt place d
  return d

/-- Creates and writes what is new. -/
def writeBack (old new : Disk) : IO Unit := do
  for (place, node) in new.nodes do
    if old.at? place ≠ some node then
      match node with
      | .directory => IO.FS.createDir (fileAt place)
      | .file content => IO.FS.writeBinFile (fileAt place) ⟨content.toArray⟩

/-! ## The gateway -/

/-- A connection, with the bytes that were received and not yet read. -/
structure Link where
  socket : Std.Async.TCP.Socket.Client
  received : IO.Ref Bytes

def socketAddress (e : Endpoint) : Std.Net.SocketAddress :=
  match e.host with
  | .v4 n => .v4 ⟨⟨Vector.ofFn fun i => .ofNat (n / Nat.pow 256 (3 - i.val))⟩, .ofNat e.port⟩
  | .v6 n => .v6 ⟨⟨Vector.ofFn fun i => .ofNat (n / Nat.pow 65536 (7 - i.val))⟩, .ofNat e.port⟩

/-- The connection to an address, if somebody answers there. -/
def connect (address : Text) : IO (Option Link) := do
  match Endpoint.read address with
  | .error _ => return none
  | .ok e =>
    try
      let socket ← Std.Async.TCP.Socket.Client.mk
      (socket.connect (socketAddress e)).block
      return some { socket, received := ← IO.mkRef [] }
    catch _ => return none

def Link.send (link : Link) (t : Text) : IO Unit := do
  unless t.isEmpty do
    (link.socket.send ⟨(Utf8.encode t).toArray⟩).block

/-- The next line with its ending; none at the end. -/
partial def Link.line (link : Link) : IO (Option Bytes) := do
  let received ← link.received.get
  match received.dropWhile (· ≠ 10) with
  | _ :: later =>
    link.received.set later
    return some (received.takeWhile (· ≠ 10) ++ [10])
  | [] =>
    let more ← try (link.socket.recv? 65536).block catch _ => pure none
    match more with
    | some bytes =>
      link.received.set (received ++ bytes.toList)
      link.line
    | none =>
      link.received.set []
      return if received.isEmpty then none else some received

/-- Takes a step that may need the gateway: its answer so far is shown while a
    line is awaited. -/
partial def converse {α : Type} (link : Option Link) (step : Transcript → α × Transcript)
    (meanwhile : α → IO Unit) (lines : List (Option Bytes)) (sent : Nat) : IO α := do
  let (a, t) := step { lines }
  match link with
  | none => return a
  | some link =>
    link.send (t.sent.drop sent)
    if t.waiting then
      meanwhile a
      converse (some link) step meanwhile (lines ++ [← link.line]) t.sent.length
    else return a

/-! ## The terminal -/

/-- Collects what the terminal sends. -/
partial def collect (input : IO.FS.Stream) (received : IO.Ref Bytes) : IO Unit := do
  let bytes ← input.read 1
  unless bytes.isEmpty do
    received.modify (· ++ bytes.toList)
    collect input received

/-- What has come, as soon as there is a whole character; the start of another
    one is left for later. -/
partial def awaitText (received : IO.Ref Bytes) : IO Text := do
  IO.sleep 10
  let bytes ← received.modifyGet fun bytes => (bytes, [])
  let whole? (missing : Nat) :=
    (Utf8.decode? (bytes.take (bytes.length - missing))).map fun t => (t, missing)
  let (t, left) := match (List.range 4).findSome? whole? with
    | some (t, missing) => (t, bytes.drop (bytes.length - missing))
    | none => ([], bytes.drop 1)
  received.modify (left ++ ·)
  if t.isEmpty then awaitText received else return t

abbrev Link.Session := Runpad.Session (Gateway.Client × Transcript)

def display (output : IO.FS.Stream) (s : Link.Session) (e : Editor) : IO Unit := do
  let screen := Terminal.paint s.width s.height (e.picture s.width s.height)
  output.putStr (String.ofList screen)
  output.flush

/-- The disk with what the event may use: the path of a prompt that it ends. -/
def prepare (store : Store) (event : Event) (s : Link.Session) : IO Link.Session := do
  match event, s.editor.prompt.bind Prompt.chosen with
  | .key .enter _, some path =>
    let d ← lookUp { s.disk with nodes := [] } path
    let d ← match store.target path with
      | .ok target => lookUp d target
      | .error _ => pure d
    return { s with disk := d }
  | _, _ => return s

/-- Takes an event; none if it ends the editor. -/
def takeEvent (link : Option Link) (output : IO.FS.Stream) (store : Store) (event : Event)
    (s : Link.Session) : IO (Option Link.Session) := do
  let s ← prepare store event s
  let now ← IO.monoMsNow
  let step (t : Transcript) :=
    let step := { s with remote := (s.remote.1, t) }.step (Gateway.Client.remote Transcript.peer)
      store now event
    (step, (step.next.map (·.remote.2)).getD t)
  let result ← converse link step (fun step => step.during.forM (display output s)) [] 0
  match result.next with
  | none => return none
  | some next =>
    try
      writeBack s.disk next.disk
      return some next
    catch fault =>
      return some { next with editor := s.editor.error (toString fault).toList, disk := s.disk }

/-- Takes events until one ends the editor. -/
partial def work (link : Option Link) (output : IO.FS.Stream) (store : Store)
    (received : IO.Ref Bytes) (reader : Terminal.Reader) (s : Link.Session) : IO Unit := do
  let (reader, events) := reader.read (← awaitText received)
  let mut s := s
  for event in events do
    match ← takeEvent link output store event s with
    | none => return ()
    | some next =>
      s := next
      display output s s.editor
  work link output store received reader s

/-- The editor on the terminal. -/
def edit (link : Option Link) (start : Start) : IO Unit := do
  let output ← IO.getStdout
  let received ← IO.mkRef []
  let _ ← IO.asTask (collect (← IO.getStdin) received)
  let s := start.session Transcript.peer (fun _ => link.isSome) 80 24 {}
  output.putStr (String.ofList (Terminal.enter ++ Terminal.askSize))
  display output s s.editor
  work link output start.store received .plain s
  output.putStr (String.ofList Terminal.leave)
  output.flush

/-! ## The program -/

/-- Reads the words and the settings; the settings say which files matter. -/
def begin (words : List Text) (env : Environment) : IO (Except CommandLine.Refusal Start) := do
  let root : Path := (← Std.Internal.UV.System.cwd).toList
  let current := (Path.pieces root).filter fun piece => !Path.isIdle piece
  let d ← lookUp { current, nodes := [] } (Settings.defaultFile env)
  match Start.read words env d with
  | .error refusal => return .error refusal
  | .ok start =>
    let file := match start.arguments.task with
      | .run file _ => file
      | _ => start.arguments.file
    let d ← lookUp d (start.settings.logPath env)
    let d ← lookUp d (file.getD [])
    let start := Start.read words env d
    match start with
    | .ok start => try writeBack d start.disk catch _ => pure ()
    | .error _ => pure ()
    return start

/-- Everything on the standard input, if the program is read from there. -/
def inputFor (start : Start) : IO Bytes := do
  match start.arguments.task with
  | .run file _ =>
    if file.any fun path => !Path.isJust Headless.standardInput path then return []
    return (← (← IO.getStdin).readBinToEnd).toList
  | _ => return []

/-- Does what the words ask for. -/
def answer (words : List Text) (env : Environment) : IO Exit := do
  match ← begin words env with
  | .error refusal => return refusal.exit
  | .ok start =>
    let terminal ← (← IO.getStdout).isTty
    let colours : Colours := { output := terminal, errors := ← (← IO.getStderr).isTty }
    let reaches := match start.arguments.task with
      | .config => false
      | _ => true
    let link ← if reaches then connect start.settings.address else pure none
    match start.arguments.task, terminal with
    | .edit, true =>
      edit link start
      return start.left
    | _, _ =>
      let input ← inputFor start
      converse link (start.exit Transcript.peer (fun _ => link.isSome) colours input)
        (fun _ => pure ()) [] 0

end Runpad

def main (words : List String) : IO UInt32 := do
  let pairs ← Std.Internal.UV.System.osEnviron
  let env : Runpad.Environment :=
    { bindings := pairs.toList.map fun (name, value) => (name.toList, value.toList)
      accountHome := (← Std.Internal.UV.System.osHomedir).toList }
  let exit ← Runpad.answer (words.map String.toList) env
  (← IO.getStdout).putStr (String.ofList exit.output)
  (← IO.getStderr).putStr (String.ofList exit.errors)
  return .ofNat exit.code
