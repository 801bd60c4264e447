/-
  A run over a connection is the evaluation of the input.

  * `Server` is a gateway with an interpreter: it keeps the program that was
    handed over last, and says what that comes to; `Server.peer` is the gateway
    at the other end of a connection;
  * `Client.submit_server` and `Client.fetch_server`: what the two calls do
    there; no byte of a call or a reply is left over;
  * `Editor.evaluated` is the editor after a run, told by what the input comes
    to; `runProgram_server`: a run over the connection makes it so;
  * `Action` is an edit of the input or a run, `performAll` does several;
    `runs_evaluate`: after each run the editor shows what its input comes to.
-/
import Mathlib
import Runpad.Editor.Commands
import Runpad.Proofs.Gateway.Codec
import Runpad.Proofs.Gateway.Framing
import Runpad.Proofs.Gateway.Stream

namespace Runpad.Gateway

/-! ## A gateway with an interpreter -/

/-- What programs come to: a result, or the message of an error. -/
abbrev Evaluator := Text → Except Text Text

/-- A gateway with an interpreter. -/
structure Server where
  /-- The program that was handed over last. -/
  program : Text
  /-- What was received and is no whole call yet. -/
  unread : Text := []
  /-- The bytes of replies that were not taken yet. -/
  unsent : Bytes := []
  deriving DecidableEq, Repr

namespace Server

/-- What is said of the outcome of a program. -/
def saying : Except Text Text → Saying
  | .ok value => .text value
  | .error message => .error message

/-- Sends a reply. -/
def say (reply : Saying) (s : Server) : Server :=
  { s with unsent := s.unsent ++ Utf8.encode (reply.line ++ ['\n']) }

/-- Does what a call asks for, as its method says; a method that is not known
    does nothing. -/
def serve (eval : Evaluator) (entry : EntryPoint) (s : Server) (call : Call) : Server :=
  if call.method = entry.submit then
    match call.arguments with
    | program :: _ => { s with program }.say .done
    | [] => s
  else if call.method = entry.result then s.say (saying (eval s.program))
  else s

/-- Takes a text, and does the calls that it brings to an end. -/
def receive (eval : Evaluator) (entry : EntryPoint) (t : Text) (s : Server) : Server :=
  match framesOf (s.unread ++ t) with
  | some frames => (frames.map Frame.call).foldl (serve eval entry) { s with unread := [] }
  | none => { s with unread := s.unread ++ t }

/-- The gateway at the other end of a connection. -/
def peer (eval : Evaluator) (entry : EntryPoint) : Peer Server where
  send := receive eval entry
  line s := ((nextLine s.unsent).1, { s with unsent := (nextLine s.unsent).2 })

variable {eval : Evaluator} {entry : EntryPoint}

theorem receive_encode {call : Call} (h : call.OneLine) (held : Text) :
    receive eval entry call.encode { program := held } =
      serve eval entry { program := held } call := by
  have hframes : framesOf call.encode = some [call.frame] := by
    simpa using framesOf_encode_append h []
  simp [receive, hframes]

theorem line_say (reply : Saying) (held : Text) :
    (peer eval entry).line (say reply { program := held }) =
      (some (Utf8.encode (reply.line ++ ['\n'])), { program := held }) := by
  have hline := nextLine_encode reply.written.oneLine.1 []
  rw [List.append_nil] at hline
  simp only [peer, say, List.nil_append, hline]

end Server

/-- The names of the calls stand on one line each, and the two calls can be told
    apart. -/
structure EntryPoint.Usable (entry : EntryPoint) : Prop where
  target : '\n' ∉ entry.target
  submit : '\n' ∉ entry.submit
  result : '\n' ∉ entry.result
  ne : entry.submit ≠ entry.result

/-! ## What the calls do -/

theorem answer_line (reply : Saying) :
    Client.answer (some (Utf8.encode (reply.line ++ ['\n']))) = reply.meaning := by
  have hending : ['\n'] ∈ Text.endings := by simp [Text.endings]
  simp [Client.answer, decode_line reply hending]

variable {eval : Evaluator} {c : Client}

/-- A call to which the gateway says something. -/
theorem Client.call_server (hc : c.offline = none) {method : Text} {arguments : List Text}
    {held program : Text} {reply : Saying}
    (h : Call.OneLine ⟨c.entry.target, method, arguments⟩)
    (hserve : Server.serve eval c.entry { program := held } ⟨c.entry.target, method, arguments⟩ =
      Server.say reply { program }) :
    c.call (Server.peer eval c.entry) method arguments { program := held } =
      (reply.meaning, c, { program }) := by
  have hsend : (Server.peer eval c.entry).send (Call.encode ⟨c.entry.target, method, arguments⟩)
      { program := held } = Server.say reply { program } := by
    rw [← hserve]; exact Server.receive_encode h held
  have hafter : c.after reply.meaning = c := by cases reply <;> rfl
  simp only [Client.call, hc, hsend, Server.line_say, answer_line, hafter]

/-- A submission hands over the program. -/
theorem Client.submit_server (hc : c.offline = none) (hn : c.entry.Usable)
    (program held : Text) :
    c.submit (Server.peer eval c.entry) program { program := held } = (.ok (), c, { program }) := by
  have hserve : Server.serve eval c.entry { program := held }
      ⟨c.entry.target, c.entry.submit, [program]⟩ = Server.say .done { program } := by
    simp [Server.serve]
  rw [Client.submit, Client.call_server hc ⟨hn.target, hn.submit⟩ hserve]
  rfl

/-- The result that is fetched is what the program comes to. -/
theorem Client.fetch_server (hc : c.offline = none) (hn : c.entry.Usable) (held : Text) :
    c.fetch (Server.peer eval c.entry) { program := held } =
      ((eval held).mapError Fault.remote, c, { program := held }) := by
  have hserve : Server.serve eval c.entry { program := held } ⟨c.entry.target, c.entry.result, []⟩ =
      Server.say (Server.saying (eval held)) { program := held } := by
    simp [Server.serve, hn.ne.symm]
  rw [Client.fetch, Client.call_server hc ⟨hn.target, hn.result⟩ hserve]
  cases eval held <;> rfl

theorem execute_server (hc : c.offline = none) (hn : c.entry.Usable) (program held : Text) :
    (Client.remote (Server.peer eval c.entry)).execute program (c, { program := held }) =
      (((eval program).mapError Fault.remote).map Outcome.ofRaw, c, { program }) := by
  simp only [Remote.execute, Client.remote, Client.submit_server hc hn, Client.fetch_server hc hn]
  cases eval program <;> rfl

end Runpad.Gateway

namespace Runpad

open Gateway

/-! ## What a run does -/

/-- The editor after a run, told by what the input comes to. -/
def Editor.evaluated (eval : Evaluator) (e : Editor) : Editor :=
  match eval (programText e.input.text) with
  | .ok value => e.beginRun.2.finishRun (Outcome.ofRaw value)
  | .error message => e.beginRun.2.failRun (Fault.remote message).message

variable {eval : Evaluator} {c : Client}

/-- **A run over the connection is the evaluation of the input.** -/
theorem runProgram_server (hc : c.offline = none) (hn : c.entry.Usable) (e : Editor)
    (held : Text) :
    e.runProgram (Client.remote (Server.peer eval c.entry)) (c, { program := held }) =
      (e.evaluated eval, c, { program := programText e.input.text }) := by
  simp only [Editor.runProgram, Editor.beginRun, Editor.completeRun, execute_server hc hn,
    Editor.evaluated]
  cases eval (programText e.input.text) <;> rfl

@[simp] theorem input_evaluated (eval : Evaluator) (e : Editor) :
    (e.evaluated eval).input = e.input := by
  unfold Editor.evaluated
  split <;> rfl

theorem evaluated_ok {e : Editor} {value : Text}
    (h : eval (programText e.input.text) = .ok value) :
    (e.evaluated eval).output.text = value.map fun ch => if ch = ',' then '\n' else ch := by
  simp only [Editor.evaluated, h, Editor.finishRun, Editor.info, TextArea.text_ofText]
  rfl

theorem evaluated_error {e : Editor} {message : Text}
    (h : eval (programText e.input.text) = .error message) :
    (e.evaluated eval).output.text = [] ∧
      (e.evaluated eval).status = .error ("Run failed: interpreter error: ".toList ++ message) := by
  simp only [Editor.evaluated, h, Editor.failRun, Editor.error, Editor.beginRun, Editor.info]
  exact ⟨TextArea.text_ofText [], rfl⟩

/-- What a run shows depends on the input only. -/
theorem evaluated_shown {e e' : Editor} (h : e.input = e'.input) :
    (e.evaluated eval).output = (e'.evaluated eval).output ∧
      (e.evaluated eval).status = (e'.evaluated eval).status := by
  unfold Editor.evaluated
  rw [h]
  split <;> exact ⟨rfl, rfl⟩

/-! ## Edits and runs -/

/-- What the user does: edits the input, or runs it. -/
inductive Action where
  | edit (change : TextArea → TextArea)
  | run

/-- Does it. -/
def Action.perform {σ : Type} (remote : Remote σ) (s : Editor × σ) : Action → Editor × σ
  | .edit change => ({ s.1 with input := change s.1.input, modified := true }, s.2)
  | .run => s.1.runProgram remote s.2

/-- Does one after the other, with a client and the gateway it is connected to. -/
def performAll (eval : Evaluator) (entry : EntryPoint) (actions : List Action)
    (s : Editor × Client × Server) : Editor × Client × Server :=
  actions.foldl (Action.perform (Client.remote (Server.peer eval entry))) s

/-- The input after the edits among what was done; runs leave it alone. -/
def edited (input : TextArea) (actions : List Action) : TextArea :=
  actions.foldl (fun a action =>
    match action with
    | .edit change => change a
    | .run => a) input

/-- An action keeps the connection, leaves nothing over on it, and only edits
    change the input. -/
theorem perform_server (hc : c.offline = none) (hn : c.entry.Usable) (e : Editor) (held : Text)
    (action : Action) :
    ∃ e' held',
      action.perform (Client.remote (Server.peer eval c.entry)) (e, c, { program := held }) =
        (e', c, { program := held' }) ∧
      e'.input = edited e.input [action] := by
  cases action with
  | edit change => exact ⟨_, held, rfl, rfl⟩
  | run =>
    refine ⟨e.evaluated eval, programText e.input.text, runProgram_server hc hn e held, ?_⟩
    simp [edited]

theorem performAll_server (hc : c.offline = none) (hn : c.entry.Usable) (e : Editor) (held : Text)
    (actions : List Action) :
    ∃ e' held', performAll eval c.entry actions (e, c, { program := held }) =
        (e', c, { program := held' }) ∧
      e'.input = edited e.input actions := by
  induction actions generalizing e held with
  | nil => exact ⟨e, held, rfl, rfl⟩
  | cons action actions ih =>
    obtain ⟨e₁, held₁, h₁, hi₁⟩ := perform_server hc hn e held action
    obtain ⟨e₂, held₂, h₂, hi₂⟩ := ih e₁ held₁
    refine ⟨e₂, held₂, ?_, ?_⟩
    · rw [performAll, List.foldl_cons, h₁]; exact h₂
    · rw [hi₂, hi₁]; rfl

/-- After any actions, a run shows what the input comes to that the edits have
    made. -/
theorem performAll_run (hc : c.offline = none) (hn : c.entry.Usable) (e : Editor) (held : Text)
    (earlier : List Action) :
    ∃ before : Editor, before.input = edited e.input earlier ∧
      performAll eval c.entry (earlier ++ [.run]) (e, c, { program := held }) =
        (before.evaluated eval, c, { program := programText before.input.text }) := by
  obtain ⟨before, held', hw, hi⟩ := performAll_server hc hn e held earlier
  refine ⟨before, hi, ?_⟩
  rw [performAll, List.foldl_concat, ← performAll, hw]
  exact runProgram_server hc hn before held'

/-- What a run of an input has come to, for a client `c` and an interpreter: the
    program the gateway has, what stayed, and what the editor shows. -/
structure Evaluated (eval : Evaluator) (c : Client) (input : TextArea)
    (s : Editor × Client × Server) : Prop where
  program : s.2.2 = { program := programText input.text }
  client : s.2.1 = c
  unchanged : s.1.input = input
  value : ∀ v, eval (programText input.text) = .ok v →
    s.1.output.text = v.map fun ch => if ch = ',' then '\n' else ch
  error : ∀ m, eval (programText input.text) = .error m →
    s.1.output.text = [] ∧ s.1.status = .error ("Run failed: interpreter error: ".toList ++ m)

/-- **Each run shows what its input comes to**, after any edits and runs: the
    gateway has the program, the connection and the input stay, and the editor
    shows the value or the error.  It shows the same after any other actions that
    leave the same input, so no run matters to a later one. -/
theorem runs_evaluate (eval : Evaluator) {c : Client} (hc : c.isConnected = true)
    (hn : c.entry.Usable) (e : Editor) (held : Text) (earlier : List Action) :
    Evaluated eval c (edited e.input earlier)
        (performAll eval c.entry (earlier ++ [.run]) (e, c, { program := held })) ∧
      ∀ e' held' earlier', edited e'.input earlier' = edited e.input earlier →
        (performAll eval c.entry (earlier' ++ [.run]) (e', c, { program := held' })).1.output =
            (performAll eval c.entry (earlier ++ [.run]) (e, c, { program := held })).1.output ∧
          (performAll eval c.entry (earlier' ++ [.run]) (e', c, { program := held' })).1.status =
            (performAll eval c.entry (earlier ++ [.run]) (e, c, { program := held })).1.status := by
  have hc' : c.offline = none := by simpa [Client.isConnected] using hc
  obtain ⟨before, hi, hw⟩ := performAll_run hc' hn e held earlier
  refine ⟨?_, fun e' held' earlier' h => ?_⟩
  · rw [hw, ← hi]
    exact ⟨rfl, rfl, input_evaluated eval before, fun _ => evaluated_ok, fun _ => evaluated_error⟩
  · obtain ⟨before', hi', hw'⟩ := performAll_run hc' hn e' held' earlier'
    rw [hw, hw']
    exact evaluated_shown (hi'.trans (h.trans hi.symm))

/-- An interpreter that knows one program. -/
def oneProgram : Evaluator := fun program =>
  if program = "1\n".toList then .ok "a,\\\r\n,b".toList else .error "no,\n".toList

/-- A run that fails, and a run after it that does not. -/
theorem oneProgram_evaluates :
    connected.isConnected = true ∧ connected.entry.Usable ∧
      Evaluated oneProgram connected (.ofText ['1'])
        (performAll oneProgram connected.entry [.run, .edit fun _ => .ofText ['1'], .run]
          (Editor.start [], connected, { program := [] })) ∧
      (performAll oneProgram connected.entry [.run, .edit fun _ => .ofText ['1'], .run]
        (Editor.start [], connected, { program := [] })).1.output.text =
          ['a', '\n', '\\', '\r', '\n', '\n', 'b'] := by
  have hn : connected.entry.Usable := ⟨by decide, by decide, by decide, by decide⟩
  obtain ⟨h, -⟩ := runs_evaluate oneProgram rfl hn (Editor.start []) []
    [.run, .edit fun _ => .ofText ['1']]
  refine ⟨rfl, hn, h, ?_⟩
  have hvalue : oneProgram (programText (TextArea.ofText ['1']).text) =
      .ok ['a', ',', '\\', '\r', '\n', ',', 'b'] := by decide
  exact h.value _ hvalue

end Runpad
