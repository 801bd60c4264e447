/-
  Replies of the gateway, one line each.

  * `Value` is what a call can return, `Value.shown` its text for display;
  * `decode` reads a reply line: `!y`, a type and a value for a success, `!x`
    for an error of the interpreter; the line ending does not matter.
-/
import Runpad.Gateway.Escape
import Runpad.Gateway.Fault
import Runpad.Number.Double
import Runpad.Text.Lines

namespace Runpad.Gateway

open Number (Double)

/-- What a call can return. -/
inductive Value where
  | void
  | null
  | text (content : Text)
  | integer (n : Int)
  | double (d : Double)
  | boolean (b : Bool)
  deriving DecidableEq, Repr

/-- The text of a value. -/
def Value.shown : Value → Text
  | .void | .null => []
  | .text content => content
  | .integer n => Number.render n
  | .double d => d.render
  | .boolean b => (if b then "true" else "false").toList

/-- The name of a value's type.  A value that is dropped leaves only this name, in a
    record of the log. -/
def Value.kind : Value → Text
  | .void => "void".toList
  | .null => "null".toList
  | .text _ => "string".toList
  | .integer _ => "integer".toList
  | .double _ => "double".toList
  | .boolean _ => "boolean".toList

/-- The truth value of that name. -/
def boolean? (t : Text) : Option Bool :=
  if t = "true".toList then some true else if t = "false".toList then some false else none

/-- The value after the mark of success: a type and its content. -/
def decodeValue (line : Text) : Text → Except Fault Value
  | [] => .error (.malformed line)
  | tag :: body =>
    let wellFormed : Option Value → Except Fault Value := fun v => v.elim (.error (.malformed line)) .ok
    if tag = 'v' then .ok .void
    else if tag = 'n' then .ok .null
    else if tag = 's' then .ok (.text (unescape body))
    else if tag = 'i' || tag = 'L' then wellFormed ((Number.long? body).map .integer)
    else if tag = 'd' then wellFormed ((Double.read? body).map .double)
    else if tag = 'b' then wellFormed ((boolean? body).map .boolean)
    else .error (.unsupported tag)

/-- The message after the mark of an error: an escaped text, or anything else
    as it is. -/
def decodeError : Text → Text
  | 's' :: message => unescape message
  | other => other

/-- What a reply line without its ending says. -/
def decodeStripped (line : Text) : Except Fault Value :=
  match line with
  | '!' :: 'y' :: rest => decodeValue line rest
  | '!' :: 'x' :: rest => .error (.remote (decodeError rest))
  | _ => .error (.malformed line)

/-- What a reply line says. -/
def decode (line : Text) : Except Fault Value :=
  decodeStripped (Text.stripEnding line)

end Runpad.Gateway
