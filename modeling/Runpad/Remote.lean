/-
  Running a program far away.

  * `Remote` is an interpreter as the editor sees it: it takes a program, gives
    the result of the last one, and says who it is;
  * `programText` is the text that it is sent, `resultText` the text that is
    shown for its reply;
  * `Remote.execute` is one run: a program is submitted, and if that went well
    its result is fetched.
-/
import Runpad.Gateway.Fault

namespace Runpad

/-- An interpreter with a state of its own. -/
structure Remote (σ : Type) where
  /-- Hands over a program. -/
  submit : Text → σ → Except Gateway.Fault Unit × σ
  /-- Asks for the result of the last program. -/
  fetch : σ → Except Gateway.Fault Text × σ
  /-- A short description for the status bar. -/
  describe : σ → Text

/-- What stands between the elements of a result. -/
def delimiter : Char := ','

/-- A reply for display: each delimiter is a line break. -/
def resultText (raw : Text) : Text :=
  raw.map fun c => if c = delimiter then '\n' else c

/-- A buffer as a program: it ends in a line feed. -/
def programText (buffer : Text) : Text :=
  if buffer.getLast? = some '\n' then buffer else buffer ++ ['\n']

/-- The result of a run: the reply, and its text for display. -/
structure Outcome where
  raw : Text
  shown : Text
  deriving DecidableEq, Repr

/-- The result that a reply stands for. -/
def Outcome.ofRaw (raw : Text) : Outcome :=
  ⟨raw, resultText raw⟩

/-- One run of a program. -/
def Remote.execute {σ : Type} (remote : Remote σ) (program : Text) (s : σ) :
    Except Gateway.Fault Outcome × σ :=
  match remote.submit program s with
  | (.error fault, s) => (.error fault, s)
  | (.ok (), s) =>
    match remote.fetch s with
    | (.error fault, s) => (.error fault, s)
    | (.ok raw, s) => (.ok (Outcome.ofRaw raw), s)

end Runpad
