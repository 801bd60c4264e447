/-
  A run without the editor and a run in it.

  * `programs_agree`: a file gives both the same program;
  * `Agrees` compares the two answers without the editor, the text for display and
    the reply as it came, with the editor after its run; `agrees_execute`: so it is
    for one program;
  * `calls_agree`: both make the same calls and leave the interpreter alike;
  * `run_agrees`: for a file and any interpreter, the two runs agree.
-/
import Mathlib
import Runpad.Headless
import Runpad.Proofs.Disk.Read
import Runpad.Proofs.Editor.Texts
import Runpad.Proofs.Remote.Requests

namespace Runpad.Headless

open Editor (shown_of_execute remote_completeRun)

variable {σ : Type} {d : Disk} {path : Path} {content input : Bytes} {t : Text}

/-! ## The program -/

/-- The editor has the text of the file as its input. -/
theorem input_openFile (h : Store.open path d = .ok t) (e : Editor) :
    (e.openFile (some path) d).input.text = t := by
  simp only [Editor.openFile, h]
  exact TextArea.text_ofText t

/-- **Both runs get the same program from a file.**  A path of a lone dash stands
    for the standard input; then it has to hold what the file does. -/
theorem programs_agree (hread : d.read path = .ok content)
    (htext : Utf8.decode content = .ok t)
    (hsource : Path.isJust standardInput path = false ∨ input = content) (e : Editor) :
    readProgram (some path) input d = .ok (programText (e.openFile (some path) d).input.text) := by
  have hopen : Store.open path d = .ok t := by
    rw [Store.open_eq_ok_iff, hread, Utf8.decode_eq_ok_iff.1 htext]
  rw [input_openFile hopen]
  cases hdash : Path.isJust standardInput path with
  | false =>
    simp only [readProgram, Option.filter_some, hdash, Bool.not_false, if_true, hopen]
    rfl
  | true =>
    have hinput : input = content := by
      rcases hsource with hne | hinput
      · rw [hdash] at hne
        cases hne
      · exact hinput
    have hdecode : Utf8.decode? input = some t := by
      rw [hinput, Utf8.decode?, htext]
      rfl
    simp [readProgram, Option.filter_some, hdash, hdecode]

/-! ## The answers -/

/-- The text for display and the reply as it came, each as a run without the editor
    answers it, and the editor after its run. -/
structure Agrees (shown raw : Except Fault Text) (e : Editor) : Prop where
  /-- A text is answered iff the editor reports no error, and it is the output. -/
  shown_iff (text : Text) : shown = .ok text ↔ (∃ m, e.status = .info m) ∧ e.output.text = text
  /-- The reply as it came stands for that text. -/
  raw_iff (text : Text) : shown = .ok text ↔ ∃ reply, raw = .ok reply ∧ resultText reply = text
  /-- A fault is answered iff the editor reports an error, and the output is empty. -/
  fault_iff : (∃ fault, shown = .error fault) ↔ (∃ m, e.status = .error m) ∧ e.output.text = []
  /-- Both faults are the one that the editor reports. -/
  same_fault (fault : Fault) : shown = .error fault → raw = .error fault ∧
    ∃ via cause, fault = .run via cause ∧ e.status = .error ("Run failed: ".toList ++ cause.message)

theorem agrees_execute (remote : Remote σ) (program : Text) {e : Editor} (r : σ)
    (hempty : e.output.text = []) :
    Agrees (runWith remote program false r).1 (runWith remote program true r).1
      (e.completeRun remote program r).1 := by
  rcases hx : remote.execute program r with ⟨result, r'⟩
  cases result with
  | error fault =>
    have hstatus : (e.completeRun remote program r).1.status =
        .error ("Run failed: ".toList ++ fault.message) := by
      simp only [Editor.completeRun, hx]
      rfl
    have houtput : (e.completeRun remote program r).1.output.text = [] := by
      simp only [Editor.completeRun, hx]
      exact hempty
    have hanswer : ∀ raw, (runWith remote program raw r).1 =
        .error (.run (remote.describe r') fault) := by
      intro raw
      simp only [runWith, hx]
    rw [hanswer, hanswer]
    constructor <;> simp [hstatus, houtput]
  | ok outcome =>
    have hshown : outcome.shown = resultText outcome.raw :=
      shown_of_execute (congrArg Prod.fst hx)
    have hstatus : ∃ m, (e.completeRun remote program r).1.status = .info m := by
      simp only [Editor.completeRun, hx]
      exact ⟨_, rfl⟩
    have houtput : (e.completeRun remote program r).1.output.text = outcome.shown := by
      simp only [Editor.completeRun, hx]
      exact TextArea.text_ofText outcome.shown
    have hanswer : ∀ raw, (runWith remote program raw r).1 =
        .ok (if raw then outcome.raw else outcome.shown) := by
      intro raw
      simp only [runWith, hx]
    obtain ⟨m, hm⟩ := hstatus
    rw [hanswer, hanswer]
    constructor <;> simp [hm, houtput, hshown]

/-! ## The calls -/

/-- What is left of the interpreter is what one run leaves of it. -/
theorem runWith_snd (remote : Remote σ) (program : Text) (raw : Bool) (r : σ) :
    (runWith remote program raw r).2 = (remote.execute program r).2 := by
  unfold runWith
  split <;> simp_all

/-- Both runs of the input make the calls of one run. -/
theorem calls_agree (remote : Remote σ) (e : Editor) (raw : Bool) (r : σ) :
    (runWith remote.recorded (programText e.input.text) raw (r, [])).2 =
        (e.runProgram remote.recorded (r, [])).2 ∧
      (e.runProgram remote.recorded (r, [])).2.2 =
        remote.requests (programText e.input.text) r := by
  have hrun : (e.runProgram remote.recorded (r, [])).2 =
      (remote.recorded.execute (programText e.input.text) (r, [])).2 :=
    remote_completeRun remote.recorded _ _ (r, [])
  rw [runWith_snd, hrun, Remote.execute_recorded]
  exact ⟨rfl, List.nil_append _⟩

/-- **A run without the editor and a run in it agree.**  Both read the same file
    and start with the same interpreter.  They make the same calls, with the same
    program, and leave the interpreter alike; the one answers a text iff the other
    reports no error, and then shows that text; the one answers a fault iff the
    other reports an error and shows nothing, and it is the same fault. -/
theorem run_agrees (hread : d.read path = .ok content) (htext : Utf8.decode content = .ok t)
    (hsource : Path.isJust standardInput path = false ∨ input = content)
    (remote : Remote σ) (r : σ) (e : Editor) :
    ∃ program, readProgram (some path) input d = .ok program ∧ program = programText t ∧
      Agrees (runWith remote program false r).1 (runWith remote program true r).1
        ((e.openFile (some path) d).runProgram remote r).1 ∧
      ∀ raw, (runWith remote program raw r).2 =
          ((e.openFile (some path) d).runProgram remote r).2 ∧
        (runWith remote.recorded program raw (r, [])).2 =
          ((e.openFile (some path) d).runProgram remote.recorded (r, [])).2 ∧
        (runWith remote.recorded program raw (r, [])).2.2 = remote.requests program r := by
  have hinput : (e.openFile (some path) d).input.text = t :=
    input_openFile (by rw [Store.open_eq_ok_iff, hread, Utf8.decode_eq_ok_iff.1 htext]) e
  refine ⟨programText t, ?_, rfl, ?_, fun raw => ?_⟩
  · rw [programs_agree hread htext hsource e, hinput]
  · rw [← hinput]
    exact agrees_execute remote _ r (TextArea.text_ofText [])
  · obtain ⟨hcalls, hmade⟩ := calls_agree remote (e.openFile (some path) d) raw r
    rw [hinput] at hcalls hmade
    refine ⟨?_, hcalls, ?_⟩
    · rw [runWith_snd, ← hinput]
      exact (remote_completeRun remote _ _ r).symm
    · rw [hcalls, hmade]

/-- An interpreter that answers every program with two elements. -/
def pair : Remote Unit where
  submit _ r := (.ok (), r)
  fetch r := (.ok "1,2".toList, r)
  describe _ := []

/-- A disk with a file of two bytes and no line feed. -/
def oneFile : Disk :=
  ⟨[], [([['p']], .file [0xC3, 0xA9])]⟩

theorem oneFile_agrees :
    ∃ program, readProgram (some ['p']) [] oneFile = .ok program ∧ program = ['é', '\n'] ∧
      Agrees (runWith pair program false ()).1 (runWith pair program true ()).1
        (((Editor.start []).openFile (some ['p']) oneFile).runProgram pair ()).1 ∧
      (runWith pair.recorded program true ((), [])).2.2 = [.submit ['é', '\n'], .fetch] := by
  have hread : oneFile.read ['p'] = .ok [0xC3, 0xA9] := by decide
  have htext : Utf8.decode [0xC3, 0xA9] = .ok ['é'] := by decide
  have hsource : Path.isJust standardInput ['p'] = false ∨ ([] : Bytes) = [0xC3, 0xA9] :=
    Or.inl (by decide)
  obtain ⟨program, hprogram, rfl, hagrees, hcalls⟩ :=
    run_agrees hread htext hsource pair () (Editor.start [])
  exact ⟨_, hprogram, by decide, hagrees, (hcalls true).2.2⟩

end Runpad.Headless
