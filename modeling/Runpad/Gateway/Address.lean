/-
  Where a gateway is: the address of a host and a port.

  * `Host.loose4?` reads addresses of up to four numbers, `Host.v6?` those of
    groups, of which the last may be four octets (`quad?`);
  * `Endpoint.read` reads a host and a port, and says what is missing.
-/
import Runpad.Gateway.Fault
import Runpad.Number.Integer
import Runpad.Text.Parts

namespace Runpad.Gateway

/-- The address of a host. -/
inductive Host where
  | v4 (address : Nat)
  | v6 (address : Nat)
  deriving DecidableEq, Repr

/-- A host and a port. -/
structure Endpoint where
  host : Host
  port : Nat
  deriving DecidableEq, Repr

/-- Numbers as the digits of one number, the first one the highest. -/
def joined (base : Nat) (numbers : List Nat) : Nat :=
  numbers.foldl (fun n d => n * base + d) 0

/-! ## Hosts -/

/-- A number of eight bits without needless zeros. -/
def octet? (t : Text) : Option Nat :=
  if t.head? = some '0' ∧ t.length ≠ 1 ∨ 3 < t.length then none
  else (Number.ofDigits? t).filter (· < 256)

/-- The number of four octets with dots between them. -/
def quad? (t : Text) : Option Nat := do
  let octets ← (Text.parts '.' t).mapM octet?
  if octets.length = 4 then some (joined 256 octets) else none

/-- The value of a digit in a base up to sixteen. -/
def digitIn? (base : Nat) (c : Char) : Option Nat :=
  let c := c.toLower
  let value := if Number.isDigit c then Number.digitValue c else c.toNat - 'a'.toNat + 10
  if (Number.isDigit c || ('a' ≤ c && c ≤ 'f')) && value < base then some value else none

/-- One or more digits in a base. -/
def numberIn? (base : Nat) (t : Text) : Option Nat :=
  if t = [] then none else (t.mapM (digitIn? base)).map (joined base)

/-- A number whose first characters tell its base. -/
def looseNumber? : Text → Option Nat
  | '0' :: x :: rest => if x = 'x' || x = 'X' then numberIn? 16 rest else numberIn? 8 (x :: rest)
  | t => numberIn? 10 t

/-- An address of one to four numbers, of which the last one stands for all that
    are left. -/
def Host.loose4? (t : Text) : Option Host := do
  let numbers ← (Text.parts '.' t).mapM looseNumber?
  let last ← numbers.getLast?
  let front := numbers.dropLast
  let rest := Nat.pow 256 (4 - front.length)
  if front.length ≤ 3 ∧ front.all (· < 256) ∧ last < rest then
    some (.v4 (joined 256 front * rest + last))
  else none

/-- A group of up to four hexadecimal digits. -/
def group? (t : Text) : Option Nat :=
  if 4 < t.length then none else numberIn? 16 t

/-- Groups with colons between them, of which the last may be four octets. -/
def groups? (t : Text) : Option (List Nat) :=
  if t = [] then some []
  else do
    let all := Text.parts ':' t
    let last ← all.getLast?
    let front ← all.dropLast.mapM group?
    match quad? last with
    | some n => some (front ++ [n / 65536, n % 65536])
    | none => (group? last).map fun n => front ++ [n]

/-- The text before the first double colon and the text after it. -/
def splitGap : Text → Option (Text × Text)
  | ':' :: ':' :: rest => some ([], rest)
  | c :: rest => (splitGap rest).map fun (before, after) => (c :: before, after)
  | [] => none

/-- The address of eight groups; a double colon stands for groups of zero. -/
def Host.v6? (t : Text) : Option Host :=
  match splitGap t with
  | none => do
    let groups ← groups? t
    if groups.length = 8 then some (.v6 (joined 65536 groups)) else none
  | some (before, after) => do
    let front ← groups? before
    let back ← groups? after
    -- Four octets can only come last.
    if front.length + back.length ≤ 7 ∧ '.' ∉ before then
      let gap := List.replicate (8 - front.length - back.length) 0
      some (.v6 (joined 65536 (front ++ gap ++ back)))
    else none

/-- The address of a host in any form without a name. -/
def Host.read? (t : Text) : Option Host :=
  (Host.loose4? t).orElse fun _ => Host.v6? t

/-! ## Hosts with ports -/

/-- The text before the last colon and the text after it. -/
def splitPort (t : Text) : Option (Text × Text) :=
  match t.reverse.dropWhile (· ≠ ':') with
  | [] => none
  | _ :: before => some (before.reverse, (t.reverse.takeWhile (· ≠ ':')).reverse)

/-- The host between square brackets, if the port after it has no sign. -/
def bracketed? (host port : Text) : Option Host :=
  if host.head? = some '[' ∧ host.getLast? = some ']' ∧ port.head? ≠ some '+' then
    Host.v6? (host.drop 1).dropLast
  else none

/-- The endpoint that an address denotes. -/
def Endpoint.read (address : Text) : Except Unreachable Endpoint :=
  match splitPort address with
  | none => .error .noPort
  | some (host, port) =>
    match Number.word? port with
    | none => .error .badPort
    | some number =>
      match (bracketed? host port).orElse fun _ => Host.read? host with
      | none => .error .unknownHost
      | some host => .ok ⟨host, number⟩

end Runpad.Gateway
