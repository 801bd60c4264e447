/-
  What a run asks of an interpreter.

  * `recorded` is an interpreter with a list of the requests made to it;
  * `requests` are those of one run: the program is handed over, and if it was
    taken its result is asked for;
  * `execute_recorded`: a run makes these requests and no others, and that they are
    recorded changes nothing else.
-/
import Mathlib
import Runpad.Proofs.Gateway.Alignment

namespace Runpad.Remote

open Gateway (Request)

variable {σ : Type}

/-- The interpreter with the list of the requests made to it, in their order. -/
def recorded (remote : Remote σ) : Remote (σ × List Request) where
  submit program s :=
    ((remote.submit program s.1).1, (remote.submit program s.1).2, s.2 ++ [.submit program])
  fetch s := ((remote.fetch s.1).1, (remote.fetch s.1).2, s.2 ++ [.fetch])
  describe s := remote.describe s.1

/-- The requests of one run. -/
def requests (remote : Remote σ) (program : Text) (s : σ) : List Request :=
  match (remote.submit program s).1 with
  | .ok () => [.submit program, .fetch]
  | .error _ => [.submit program]

/-- A run makes its requests, and that they are recorded changes nothing else. -/
theorem execute_recorded (remote : Remote σ) (program : Text) (s : σ) (made : List Request) :
    remote.recorded.execute program (s, made) =
      ((remote.execute program s).1, (remote.execute program s).2,
        made ++ remote.requests program s) := by
  rcases hs : remote.submit program s with ⟨taken, s₁⟩
  cases taken with
  | error fault => simp [execute, requests, recorded, hs]
  | ok =>
    rcases hf : remote.fetch s₁ with ⟨result, s₂⟩
    cases result with
    | error fault => simp [execute, requests, recorded, hs, hf]
    | ok raw => simp [execute, requests, recorded, hs, hf]

end Runpad.Remote
