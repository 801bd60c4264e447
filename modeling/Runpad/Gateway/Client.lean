/-
  The program's side of the connection to a gateway.

  * `Peer` is what is at the other end: it takes the text of calls and sends
    lines of bytes, which may be anything;
  * `Client` has the address and the names of the calls; once the connection is
    lost it stays so, and `offline` says why;
  * `Client.call` is one exchange: a call goes out, a line comes back;
  * `Client.remote` makes an interpreter of it, `connect` and `connectOrOffline`
    start one.
-/
import Runpad.Gateway.Address
import Runpad.Gateway.Call
import Runpad.Gateway.Reply
import Runpad.Remote

namespace Runpad.Gateway

/-- The other end of a connection, with a state of its own. -/
structure Peer (σ : Type) where
  /-- Takes a text that is sent to it. -/
  send : Text → σ → σ
  /-- Gives the next line that it sends, with its ending; none if it sends
      nothing more. -/
  line : σ → Option Bytes × σ

/-- The names of the calls. -/
structure EntryPoint where
  target : Text := ['t']
  submit : Text := "set_text".toList
  result : Text := "get_result".toList
  deriving DecidableEq, Repr

/-- The program's side of a connection. -/
structure Client where
  address : Text
  entry : EntryPoint
  /-- Why there is no connection; none while there is one. -/
  offline : Option Text := none
  deriving DecidableEq, Repr

namespace Client

/-- Whether there is a connection. -/
def isConnected (c : Client) : Bool :=
  c.offline.isNone

/-- What a line that came back says. -/
def answer : Option Bytes → Except Fault Value
  | none => .error .closed
  | some line =>
    match Utf8.decode line with
    | .error fault => .error (.garbled fault)
    | .ok line => decode line

/-- The client after a call with the given result: some faults end the
    connection. -/
def after (result : Except Fault Value) (c : Client) : Client :=
  match result with
  | .error fault => if fault.breaksLink then { c with offline := some fault.message } else c
  | .ok _ => c

variable {σ : Type}

/-- Calls a method; without a connection nothing is sent. -/
def call (peer : Peer σ) (method : Text) (arguments : List Text) (c : Client) (s : σ) :
    Except Fault Value × Client × σ :=
  match c.offline with
  | some reason => (.error (.notConnected c.address reason), c, s)
  | none =>
    let (line, s) := peer.line (peer.send (Call.encode ⟨c.entry.target, method, arguments⟩) s)
    let result := answer line
    (result, c.after result, s)

/-- Hands over a program; what the call returns does not matter, as long as it
    is a reply to a call that succeeded. -/
def submit (peer : Peer σ) (program : Text) (c : Client) (s : σ) :
    Except Fault Unit × Client × σ :=
  let (result, c, s) := c.call peer c.entry.submit [program] s
  (result.map fun _ => (), c, s)

/-- Asks for the result. -/
def fetch (peer : Peer σ) (c : Client) (s : σ) : Except Fault Text × Client × σ :=
  let (result, c, s) := c.call peer c.entry.result [] s
  (result.map Value.shown, c, s)

/-- The gateway and its address, for the status bar. -/
def describe (c : Client) : Text :=
  "gateway ".toList ++ c.address ++ if c.isConnected then [] else " (offline)".toList

/-- The client as an interpreter. -/
def remote (peer : Peer σ) : Remote (Client × σ) where
  submit program s := s.1.submit peer program s.2
  fetch s := s.1.fetch peer s.2
  describe s := s.1.describe

/-- A client with a connection to an address, if somebody answers there. -/
def connect (answers : Endpoint → Bool) (address : Text) (entry : EntryPoint) :
    Except Fault Client :=
  match Endpoint.read address with
  | .error cause => .error (.connect address cause)
  | .ok endpoint =>
    if answers endpoint then .ok { address, entry } else .error (.connect address .refused)

/-- A client without a connection. -/
def disconnected (address : Text) (entry : EntryPoint) (reason : Text) : Client :=
  { address, entry, offline := some reason }

/-- A client for an address: without a connection if there can be none. -/
def connectOrOffline (answers : Endpoint → Bool) (address : Text) (entry : EntryPoint) : Client :=
  match connect answers address entry with
  | .ok client => client
  | .error fault => disconnected address entry fault.message

end Client

end Runpad.Gateway
