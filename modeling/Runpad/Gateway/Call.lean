/-
  Calls as the gateway reads them: line by line, one argument a line.

  * `Call` is a method of a target with texts as arguments;
  * `Call.encode` writes it: a line `c`, the target, the method, a line for each
    argument (an `s` and the escaped text), and a line `e`;
  * `Call.first?` finds the lines of the first whole call among lines received.
-/
import Runpad.Gateway.Escape

namespace Runpad.Gateway

/-- A call of a method on a target, with texts as arguments. -/
structure Call where
  target : Text
  method : Text
  arguments : List Text
  deriving DecidableEq, Repr

/-- The line that starts a call. -/
def Call.opening : Text := ['c']

/-- The line that ends a call. -/
def Call.closing : Text := ['e']

/-- The mark of a text argument. -/
def Call.textMark : Char := 's'

/-- The lines of a call. -/
def Call.lines (call : Call) : List Text :=
  Call.opening :: call.target :: call.method ::
    call.arguments.map (fun a => Call.textMark :: escape a) ++ [Call.closing]

/-- Lines one after the other, each with its line feed. -/
def feedLines (lines : List Text) : Text :=
  lines.flatMap (· ++ ['\n'])

/-- The text of a call. -/
def Call.encode (call : Call) : Text :=
  feedLines call.lines

/-- The lines of the first whole call and the lines after it: three lines, then
    all up to the first one that ends a call. -/
def Call.first? : List Text → Option (List Text × List Text)
  | opening :: target :: method :: rest =>
    match rest.dropWhile (· ≠ Call.closing) with
    | closing :: later =>
      some (opening :: target :: method :: rest.takeWhile (· ≠ Call.closing) ++ [closing], later)
    | [] => none
  | _ => none

end Runpad.Gateway
