/-
  What a run leaves of the editor.

  * `Remote.Course` is what a run asks of an interpreter and what comes of it: the
    program is handed over once, and its result fetched once if it was taken;
    `exists_course`, `Course.execute`: every run takes such a course;
  * `lineCount_ofText` and `count_resultText`: the lines of a text, and those that
    a reply is shown on;
  * `Shows` is what the output and the status bar say, `Ran` what a run with a given
    result leaves of the editor, and `exists_ran`: nothing else counts;
  * `run_effect`: so it is for every editor and every interpreter.
-/
import Mathlib
import Runpad.Editor.Commands
import Runpad.Proofs.Remote.Requests

namespace Runpad

open Gateway (Request)

/-! ## The interpreter -/

namespace Remote

variable {σ : Type} {remote : Remote σ} {program : Text} {s s' : σ} {calls : List Request}
  {result : Except Gateway.Fault Text}

/-- A run of a program makes the calls, comes to the result and leaves the
    interpreter at the last state. -/
inductive Course (remote : Remote σ) (program : Text) (s : σ) :
    List Request → Except Gateway.Fault Text → σ → Prop
  /-- The program is not taken, so there is nothing to fetch. -/
  | refused {fault s'} : remote.submit program s = (.error fault, s') →
      Course remote program s [.submit program] (.error fault) s'
  /-- The program is taken, and the run comes to whatever is then fetched. -/
  | taken {s₁ result s'} : remote.submit program s = (.ok (), s₁) →
      remote.fetch s₁ = (result, s') →
      Course remote program s [.submit program, .fetch] result s'

theorem exists_course (remote : Remote σ) (program : Text) (s : σ) :
    ∃ calls result s', remote.Course program s calls result s' := by
  rcases hs : remote.submit program s with ⟨taken, s₁⟩
  cases taken with
  | error fault => exact ⟨_, _, _, .refused hs⟩
  | ok => exact ⟨_, _, _, .taken hs rfl⟩

theorem Course.execute (h : remote.Course program s calls result s') :
    remote.execute program s = (result.map Outcome.ofRaw, s') := by
  cases h with
  | refused hs => simp only [Remote.execute, hs]; rfl
  | taken hs hf =>
    simp only [Remote.execute, hs, hf]
    cases result <;> rfl

theorem Course.requests (h : remote.Course program s calls result s') :
    remote.requests program s = calls := by
  cases h with
  | refused hs | taken hs => simp only [Remote.requests, hs]

end Remote

/-! ## Lines -/

theorem Text.length_cut (t : Text) : (Text.cut t).2.length = t.count '\n' := by
  induction t with
  | nil => rfl
  | cons c rest ih => by_cases hc : c = '\n' <;> simp [Text.cut, hc, ih]

/-- A text has one line more than it has line feeds. -/
theorem TextArea.lineCount_ofText (t : Text) : (ofText t).lineCount = 1 + t.count '\n' := by
  simp [ofText, lineCount, Text.length_cut]

/-- The line feeds of what is shown for a reply are its commas and its own. -/
theorem count_resultText (raw : Text) :
    (resultText raw).count '\n' = raw.count ',' + raw.count '\n' := by
  induction raw with
  | nil => rfl
  | cons c rest ih =>
    simp only [resultText, delimiter] at ih ⊢
    by_cases hc : c = ',' <;> by_cases hn : c = '\n' <;> simp [hc, hn, ih] <;> omega

namespace Editor

variable {σ : Type}

/-- The number of lines that a reply is shown on; for an empty one, none. -/
def replyLines (reply : Text) : Nat :=
  if reply = [] then 0 else 1 + (reply.count ',' + reply.count '\n')

theorem resultLines_resultText (reply : Text) :
    resultLines (resultText reply) = replyLines reply := by
  have hnil : resultText reply = [] ↔ reply = [] := by simp [resultText]
  simp only [resultLines, replyLines, count_resultText, hnil, Nat.add_comm]

/-! ## The editor -/

/-- The output is the text, with the cursor at its start, and the status bar says
    what is given. -/
structure Shows (e : Editor) (text : Text) (status : Status) : Prop where
  text : e.output.text = text
  row : e.output.row = 0
  column : e.output.column = 0
  status : e.status = status

/-- `e'` is `e` after a run that came to the result. -/
structure Ran (result : Except Gateway.Fault Text) (e e' : Editor) : Prop where
  /-- A reply is shown with each comma as a line break, and its lines are counted. -/
  reply : ∀ reply, result = .ok reply →
    e'.Shows (reply.map fun c => if c = ',' then '\n' else c)
      (.info s!"Run finished ({replyLines reply} line(s))".toList)
  /-- The lines are those of the output, unless that is empty. -/
  lines : ∀ reply, result = .ok reply → reply ≠ [] → e'.output.lineCount = replyLines reply
  /-- After a fault the output is empty, and the status bar says what went wrong. -/
  fault : ∀ fault, result = .error fault →
    e'.Shows [] (.error ("Run failed: ".toList ++ fault.message))
  runState : e'.runState = .idle
  /-- All the rest is as it was: the input with its cursor, the focus, the prompt, the
      path, the two flags, the interrupt key. -/
  rest : { e' with output := e.output, status := e.status, runState := e.runState } = e

theorem ran_finishRun (e : Editor) (reply : Text) :
    Ran (.ok reply) e (e.beginRun.2.finishRun (Outcome.ofRaw reply)) where
  reply := by
    rintro _ ⟨⟩
    refine ⟨TextArea.text_ofText _, rfl, rfl, ?_⟩
    rw [← resultLines_resultText]
    rfl
  lines := by
    rintro _ ⟨⟩ hne
    have houtput : (e.beginRun.2.finishRun (Outcome.ofRaw reply)).output =
        TextArea.ofText (resultText reply) := rfl
    rw [houtput, TextArea.lineCount_ofText, count_resultText, replyLines, if_neg hne]
  fault := by rintro _ ⟨⟩
  runState := rfl
  rest := rfl

theorem ran_failRun (e : Editor) (fault : Gateway.Fault) :
    Ran (.error fault) e (e.beginRun.2.failRun fault.message) where
  reply := by rintro _ ⟨⟩
  lines := by rintro _ ⟨⟩
  -- The output was emptied before the program was handed over.
  fault := by
    rintro _ ⟨⟩
    exact ⟨TextArea.text_ofText [], rfl, rfl, rfl⟩
  runState := rfl
  rest := rfl

/-- A result makes of the editor the same in every run that comes to it, whoever the
    interpreter is. -/
theorem exists_ran (result : Except Gateway.Fault Text) (e : Editor) :
    ∃ e', Ran result e e' ∧ ∀ {τ : Type} (remote : Remote τ) (s s' : τ),
      remote.execute (programText e.input.text) s = (result.map Outcome.ofRaw, s') →
        e.runProgram remote s = (e', s') := by
  cases result with
  | ok reply =>
    refine ⟨_, ran_finishRun e reply, fun remote s s' h => ?_⟩
    simp only [runProgram, completeRun, beginRun, h]
    rfl
  | error fault =>
    refine ⟨_, ran_failRun e fault, fun remote s s' h => ?_⟩
    simp only [runProgram, completeRun, beginRun, h]
    rfl

/-- **The whole effect of a run.**  The interpreter is handed the program of the
    input once, and asked for its result once if it took it.  What the run comes to
    is shown, a fault over an empty output, and of the editor nothing else changes. -/
theorem run_effect (remote : Remote σ) (e : Editor) (s : σ) :
    ∃ calls result s', remote.Course (programText e.input.text) s calls result s' ∧
      ∃ e', e.runProgram remote s = (e', s') ∧ Ran result e e' ∧
        ∀ made, e.runProgram remote.recorded (s, made) = (e', s', made ++ calls) := by
  obtain ⟨calls, result, s', h⟩ := remote.exists_course (programText e.input.text) s
  obtain ⟨e', hran, hrun⟩ := exists_ran result e
  refine ⟨calls, result, s', h, e', hrun remote s s' h.execute, hran, fun made => ?_⟩
  apply hrun remote.recorded
  rw [Remote.execute_recorded, h.execute, h.requests]

end Editor

end Runpad
