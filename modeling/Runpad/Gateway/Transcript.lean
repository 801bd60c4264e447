/-
  A gateway known by what it has sent so far.

  What the program does with a gateway depends on the lines that come back.  A
  transcript holds the lines that have come; where the program asks for one more,
  it is marked as waiting, and what was sent up to there is what the gateway has
  to be sent before it answers.

  `Transcript.peer` answers from a transcript; one that waits takes nothing more.
-/
import Runpad.Gateway.Client

namespace Runpad.Gateway

/-- What has been said on a connection. -/
structure Transcript where
  /-- The lines that have come and were not read yet; none for the end. -/
  lines : List (Option Bytes) := []
  /-- What was sent. -/
  sent : Text := []
  /-- Whether a line was asked for that has not come. -/
  waiting : Bool := false
  deriving DecidableEq, Repr

/-- The other end of a connection, as far as a transcript knows it. -/
def Transcript.peer : Peer Transcript where
  send t s := if s.waiting then s else { s with sent := s.sent ++ t }
  line s :=
    match s.lines with
    | line :: later => (line, { s with lines := later })
    | [] => (none, { s with waiting := true })

end Runpad.Gateway
