/-
  What goes wrong between the program and the gateway.

  * `Fault` lists the causes; `Fault.message` is the wording of each;
  * `Fault.breaksLink` tells the faults after which nothing that comes from the
    gateway can be trusted.
-/
import Runpad.Text.Quoted
import Runpad.Text.Utf8

namespace Runpad.Gateway

/-- Why no connection came about. -/
inductive Unreachable where
  /-- The address has no colon. -/
  | noPort
  /-- What follows the last colon is no port. -/
  | badPort
  /-- The host has no known address. -/
  | unknownHost
  /-- Nobody answers there. -/
  | refused
  deriving DecidableEq, Repr

/-- The wording of a failed connection. -/
def Unreachable.message : Unreachable → Text
  | .noPort => "invalid socket address".toList
  | .badPort => "invalid port value".toList
  | .unknownHost =>
    "failed to lookup address information: Name or service not known".toList
  | .refused => "Connection refused (os error 111)".toList

/-- A failed call. -/
inductive Fault where
  /-- No connection could be made. -/
  | connect (address : Text) (cause : Unreachable)
  /-- There is no connection, for the reason given. -/
  | notConnected (address reason : Text)
  /-- A reply line is no text. -/
  | garbled (fault : Utf8.Fault)
  /-- The gateway sends no more lines. -/
  | closed
  /-- The interpreter reports an error of its own. -/
  | remote (message : Text)
  /-- A reply line says nothing that is understood. -/
  | malformed (line : Text)
  /-- A reply holds a value of an unknown type. -/
  | unsupported (tag : Char)
  deriving DecidableEq, Repr

/-- The wording of a fault. -/
def Fault.message : Fault → Text
  | .connect address cause =>
    "cannot reach interpreter gateway at ".toList ++ address ++ ": ".toList ++ cause.message
  | .notConnected address reason =>
    "not connected to interpreter gateway at ".toList ++ address ++ " (".toList ++ reason ++
      ")".toList
  | .garbled fault => "gateway I/O error: ".toList ++ fault.message
  | .closed => "gateway closed the connection".toList
  | .remote message => "interpreter error: ".toList ++ message
  | .malformed line => "malformed gateway reply: ".toList ++ Text.quote line
  | .unsupported tag => "unsupported gateway reply type '".toList ++ [tag] ++ "'".toList

/-- What lies behind a fault, if it is not a fault of the gateway itself. -/
def Fault.cause? : Fault → Option Text
  | .connect _ cause => some cause.message
  | .garbled fault => some fault.message
  | _ => none

/-- Whether a fault leaves the connection in an unknown state. -/
def Fault.breaksLink : Fault → Bool
  | .garbled _ | .closed | .malformed _ => true
  | _ => false

end Runpad.Gateway
