/-
  The modes of the editor.

  * `AtHead` is what every draw finds that waits for an event: nothing runs, at
    most one thing is in front of the regions, and the label is the description of
    the interpreter; `WhileRunning` is what the one draw during a run finds;
  * `Response.mode`: what an event leaves of the modes; `atHead_step` and
    `atHead_play` carry it on;
  * `RunsOnce`, `RunsNothing`: an event that runs the input does it once, and any
    other asks nothing of the interpreter;
  * `offline_play`: a client has no connection iff it never had one or a run has
    broken it;
  * `draws_in_mode`: all of it, for a whole session.
-/
import Mathlib
import Runpad.Proofs.Editor.Texts
import Runpad.Proofs.Gateway.Link
import Runpad.Proofs.Remote.Requests

namespace Runpad

namespace Editor

variable {store : Store} {now : Nat} {e e' : Editor} {d d' : Disk} {event : Event} {flow : Flow}

/-- At most one of the prompt and the page of help is in front of the regions. -/
def OneInFront (e : Editor) : Prop :=
  e.prompt = none ∨ e.help = false

/-- What is shown while a program runs. -/
structure WhileRunning (e : Editor) : Prop where
  output : e.output.text = []
  runState : e.runState = .submitting
  atRest : e.AtRest

theorem mode_mapFocused (move : TextArea → TextArea) (e : Editor) :
    (e.mapFocused move).runState = e.runState ∧ (e.mapFocused move).label = e.label ∧
      (e.mapFocused move).prompt = e.prompt ∧ (e.mapFocused move).help = e.help := by
  unfold mapFocused
  split <;> exact ⟨rfl, rfl, rfl, rfl⟩

/-- An event by itself runs nothing, keeps the label, and brings nothing in front
    of what is in front already. -/
theorem Response.mode (h : Response store now e d event flow e' d') :
    e'.runState = e.runState ∧ e'.label = e.label ∧ (e.OneInFront → e'.OneInFront) := by
  cases h with
  | typed hp =>
    refine ⟨rfl, rfl, ?_⟩
    rintro (hnone | hhelp)
    · rw [hp] at hnone
      cases hnone
    · exact Or.inr hhelp
  | cancelled | opened | notOpened | saved | notSaved =>
    exact ⟨rfl, rfl, fun _ => Or.inl rfl⟩
  | dismissed => exact ⟨rfl, rfl, fun _ => Or.inr rfl⟩
  | explained hr => exact ⟨rfl, rfl, fun _ => Or.inl hr.prompt⟩
  | @moved _ focus move hp =>
    obtain ⟨hrun, hlabel, hprompt, -⟩ := mode_mapFocused move { e with focus }
    exact ⟨hrun, hlabel, fun _ => Or.inl (hprompt.trans hp)⟩
  | ignored hp | pasted hp => exact ⟨rfl, rfl, fun _ => Or.inl hp⟩
  | edited hr | interrupted hr | interruptedAgain hr | left hr | ordered hr =>
    exact ⟨rfl, rfl, fun _ => Or.inl hr.prompt⟩

variable {σ : Type}

/-- A run shows an empty output first. -/
theorem whileRunning_drawn (hr : e.AtRest) (width height : Nat) :
    WhileRunning (e.beginRun.2.drawn width height) where
  output :=
    calc (e.beginRun.2.drawn width height).output.text
      _ = e.beginRun.2.output.text := rfl
      _ = [] := TextArea.text_ofText []
  runState := rfl
  atRest := ⟨hr.prompt, hr.help⟩

/-- A run that is over leaves nothing running, and what was in front. -/
theorem mode_completeRun (remote : Remote σ) (program : Text) (e : Editor) (r : σ) :
    (e.completeRun remote program r).1.runState = .idle ∧
      (e.completeRun remote program r).1.prompt = e.prompt ∧
      (e.completeRun remote program r).1.help = e.help := by
  unfold completeRun
  split <;> exact ⟨rfl, rfl, rfl⟩

end Editor

namespace Session

open Editor
open Gateway (Request Client Peer Breaking)

variable {σ : Type} {remote : Remote σ} {store : Store} {s s' : Session σ}

/-! ## The draws -/

/-- What a draw finds that waits for an event. -/
structure AtHead (remote : Remote σ) (s : Session σ) : Prop where
  idle : s.editor.runState = .idle
  oneInFront : s.editor.OneInFront
  label : s.editor.label = remote.describe s.remote

theorem atHead_start (remote : Remote σ) (r : σ) (d : Disk) (file : Option Path)
    (width height : Nat) : AtHead remote (start remote r d file width height) := by
  cases file with
  | none => exact ⟨rfl, Or.inl rfl, rfl⟩
  | some path =>
    cases ho : Store.open path d with
    | ok t =>
      simp only [start, openFile, ho]
      exact ⟨rfl, Or.inl rfl, rfl⟩
    | error fault =>
      simp only [start, openFile, ho]
      exact ⟨rfl, Or.inl rfl, rfl⟩

/-- The session after a run. -/
theorem atHead_run (remote : Remote σ) (hr : s.editor.AtRest) :
    AtHead remote (s.execute remote .run).2 := by
  obtain ⟨hidle, hprompt, -⟩ := mode_completeRun remote (programText s.editor.input.text)
    (s.editor.beginRun.2.drawn s.width s.height) s.remote
  exact ⟨hidle, Or.inl (hprompt.trans hr.prompt), rfl⟩

theorem atHead_step {now : Nat} {event : Event} (h : AtHead remote s)
    (hnext : (s.step remote store now event).next = some s') : AtHead remote s' := by
  cases advance_of_step hnext with
  | responded hresponse =>
    obtain ⟨hrun, hlabel, hfront⟩ := hresponse.mode
    refine ⟨hrun.trans h.idle, hfront h.oneInFront, ?_⟩
    calc _ = s.editor.label := hlabel
      _ = remote.describe s.remote := h.label
      _ = remote.describe (s.resize event).remote := by rw [remote_resize]
  | asked purpose hr => exact ⟨h.idle, Or.inr hr.help, h.label⟩
  | ran hr =>
    obtain ⟨hidle, hfront, hlabel⟩ := atHead_run remote hr
    exact ⟨hidle, hfront, hlabel⟩

theorem atHead_play {moments : List Moment} (h : AtHead remote s)
    (hplay : s.play remote store moments = some s') : AtHead remote s' := by
  refine play_induction (P := fun _ s₁ => AtHead remote s₁) h ?_ hplay
  intro visited s₁ m s₂ h₁ hm
  have hfound : AtHead remote (s₁.foundAt m) := ⟨h₁.idle, h₁.oneInFront, h₁.label⟩
  exact atHead_step hfound hm

/-! ## The runs -/

/-- The moment runs the input once: the output is cleared and shown, and then the
    program is executed. -/
def RunsOnce (remote : Remote σ) (store : Store) (s : Session σ) (m : Moment) : Prop :=
  ∃ e s', s.stepAt remote store m = { during := some e, next := some s' } ∧ e.WhileRunning ∧
    s'.remote = (remote.execute (programText s.editor.input.text) s.remote).2

/-- The moment shows nothing in between, and asks nothing of the interpreter. -/
def RunsNothing (remote : Remote σ) (store : Store) (s : Session σ) (m : Moment) : Prop :=
  (s.stepAt remote store m).during = none ∧
    ∀ s', (s.stepAt remote store m).next = some s' → s'.remote = s.remote

theorem runsOnce_of_runs (remote : Remote σ) (store : Store) {m : Moment}
    (h : s.editor.Runs m.event) : RunsOnce remote store s m := by
  obtain ⟨hr, ho⟩ := h
  have hfound : (s.foundAt m).editor.AtRest := hr
  refine ⟨_, _, step_order hfound ho m.now, whileRunning_drawn hr s.width s.height, ?_⟩
  exact remote_completeRun remote (programText s.editor.input.text) _ s.remote

theorem remote_step {now : Nat} {event : Event} (h : ¬ s.editor.Runs event)
    (hnext : (s.step remote store now event).next = some s') : s'.remote = s.remote := by
  cases advance_of_step hnext with
  | responded => exact remote_resize event s
  | asked => rfl
  | ran hr ho => exact absurd ⟨hr, ho⟩ h

theorem during_step {event : Event} (h : ¬ s.editor.Runs event) (now : Nat) :
    (s.step remote store now event).during = none := by
  have hresponse := handle_response store now s.disk event (e := s.editor)
  rcases hh : s.editor.handle store now event s.disk with ⟨flow, e, d⟩
  rw [hh] at hresponse
  cases flow with
  | proceed => rw [step_proceed hh]
  | quit => simp only [step, editor_resize, disk_resize, hh]
  | execute command =>
    cases hresponse with
    | ordered hr ho =>
      rw [step_order hr ho]
      cases command with
      | run => exact absurd ⟨hr, ho⟩ h
      | save | «open» => rfl

theorem runsNothing_of_not_runs (remote : Remote σ) (store : Store) {m : Moment}
    (h : ¬ s.editor.Runs m.event) : RunsNothing remote store s m := by
  have hfound : ¬ (s.foundAt m).editor.Runs m.event := h
  refine ⟨during_step hfound m.now, fun s' hnext => ?_⟩
  have hremote : s'.remote = (s.foundAt m).remote := remote_step hfound hnext
  exact hremote

/-! ## The connection -/

/-- The event runs the input, and the run ends in a fault that breaks the
    connection. -/
def LosesLink {π : Type} (peer : Peer π) (v : Session (Client × π) × Moment) : Prop :=
  v.1.editor.Runs v.2.event ∧ ∃ fault,
    ((Client.remote peer).execute (programText v.1.editor.input.text) v.1.remote).1 = .error fault ∧
      Breaking fault

/-- After the moments the client has no connection: it had none before, or a run
    has lost it. -/
def Unlinked {π : Type} (peer : Peer π) (store : Store) (s : Session (Client × π))
    (moments : List Moment) : Prop :=
  s.remote.1.offline ≠ none ∨ ∃ v ∈ s.visits (Client.remote peer) store moments, LosesLink peer v

/-- A session keeps the address of its client, and the connection until a run
    breaks it. -/
theorem offline_play {π : Type} {peer : Peer π} {s s' : Session (Client × π)}
    {moments : List Moment} (hplay : s.play (Client.remote peer) store moments = some s') :
    s'.remote.1.address = s.remote.1.address ∧
      (s'.remote.1.offline ≠ none ↔ Unlinked peer store s moments) := by
  refine play_induction (P := fun visited s₁ => s₁.remote.1.address = s.remote.1.address ∧
    (s₁.remote.1.offline ≠ none ↔ s.remote.1.offline ≠ none ∨ ∃ v ∈ visited, LosesLink peer v))
    ⟨rfl, by simp⟩ ?_ hplay
  rintro visited s₁ m s₂ ⟨haddress, hoffline⟩ hm
  by_cases hruns : s₁.editor.Runs m.event
  · obtain ⟨e, s₃, hstep, -, hremote⟩ := runsOnce_of_runs (Client.remote peer) store hruns
    have hnext : s₂ = s₃ := Option.some.inj (hm.symm.trans (congrArg Step.next hstep))
    have hlast := Client.offline_execute peer (programText s₁.editor.input.text) s₁.remote
    rw [hnext, hremote]
    refine ⟨(Client.address_execute peer _ _).trans haddress, hlast.trans ?_⟩
    have hloses : LosesLink peer (s₁.foundAt m, m) ↔ ∃ fault, ((Client.remote peer).execute
        (programText s₁.editor.input.text) s₁.remote).1 = .error fault ∧ Breaking fault :=
      and_iff_right hruns
    rw [← hloses, hoffline]
    simp [or_assoc, or_and_right, exists_or]
  · have hremote := (runsNothing_of_not_runs (Client.remote peer) store hruns).2 s₂ hm
    have hkept : ¬ LosesLink peer (s₁.foundAt m, m) := fun h => hruns h.1
    rw [hremote]
    refine ⟨haddress, hoffline.trans ?_⟩
    simp [or_and_right, exists_or, hkept]

/-! ## A whole session -/

/-- **Every draw finds the editor in its mode.**  A draw that waits for an event
    finds nothing running, not both the page of help and a prompt, and the label up
    to date.  Any event runs the input at most once, with nothing in front and the
    output empty in between, and only a run asks something of the interpreter: for
    one that keeps a record, the requests of that run and no others.  With a client
    the label says that it is offline iff there was no connection from the start or
    a run has lost it. -/
theorem draws_in_mode (store : Store) (d : Disk) (file : Option Path) (width height : Nat)
    (moments : List Moment) :
    (∀ {σ : Type} (remote : Remote σ) (r : σ) (s : Session σ),
      (start remote r d file width height).play remote store moments = some s →
        AtHead remote s ∧
          ∀ m, (s.editor.Runs m.event ∧ RunsOnce remote store s m) ∨
            (¬ s.editor.Runs m.event ∧ RunsNothing remote store s m)) ∧
    (∀ {σ : Type} (remote : Remote σ) (program : Text) (r : σ) (made : List Request),
      (remote.recorded.execute program (r, made)).2 =
        ((remote.execute program r).2, made ++ remote.requests program r)) ∧
    ∀ {π : Type} (peer : Peer π) (c : Client) (p : π) (s : Session (Client × π)),
      (start (Client.remote peer) (c, p) d file width height).play (Client.remote peer) store
          moments = some s →
        (s.editor.label = "gateway ".toList ++ c.address ++ " (offline)".toList ↔
            Unlinked peer store (start (Client.remote peer) (c, p) d file width height) moments) ∧
          (s.editor.label = "gateway ".toList ++ c.address ↔
            ¬ Unlinked peer store (start (Client.remote peer) (c, p) d file width height)
              moments) := by
  refine ⟨fun remote r s hplay => ⟨?_, fun m => ?_⟩, ?_, fun peer c p s hplay => ?_⟩
  · exact atHead_play (atHead_start remote r d file width height) hplay
  · by_cases hruns : s.editor.Runs m.event
    · exact Or.inl ⟨hruns, runsOnce_of_runs remote store hruns⟩
    · exact Or.inr ⟨hruns, runsNothing_of_not_runs remote store hruns⟩
  · intro σ remote program r made
    rw [Remote.execute_recorded]
  · obtain ⟨haddress, hoffline⟩ := offline_play hplay
    have hhead := atHead_play (atHead_start (Client.remote peer) (c, p) d file width height) hplay
    have hlabel : s.editor.label = s.remote.1.describe := hhead.label
    have haddress : s.remote.1.address = c.address := haddress
    obtain ⟨hmarked, hplain⟩ := s.remote.1.describe_eq_offline_iff
    rw [← hlabel, haddress] at hmarked hplain
    refine ⟨hmarked.trans hoffline, hplain.trans ?_⟩
    rw [← not_iff_not.2 hoffline, not_not]

/-- A gateway that hangs up on the first call. -/
def hangsUp : Peer Unit where
  send _ := id
  line _ := (none, ())

/-- The client of it, at first with a connection. -/
def caller : Client :=
  { address := ['g'], entry := {} }

/-- A run, the page of help and the order to save. -/
def ranAndAsked : List Moment :=
  [⟨0, .key (.function 5) {}, id⟩, ⟨1, .key (.function 1) {}, id⟩, ⟨2, .key .escape {}, id⟩,
    saveOrder]

theorem ranAndAsked_in_mode :
    ∃ s s', (start (Client.remote hangsUp).recorded ((caller, ()), []) ⟨[], []⟩ none 60 12).play
        (Client.remote hangsUp).recorded ⟨['t']⟩ ranAndAsked = some s ∧
      (start (Client.remote hangsUp) (caller, ()) ⟨[], []⟩ none 60 12).play
        (Client.remote hangsUp) ⟨['t']⟩ ranAndAsked = some s' ∧
      AtHead (Client.remote hangsUp).recorded s ∧ s.remote.2 = [.submit ['\n']] ∧
      s'.editor.label = "gateway g (offline)".toList ∧
      Unlinked hangsUp ⟨['t']⟩ (start (Client.remote hangsUp) (caller, ()) ⟨[], []⟩ none 60 12)
        ranAndAsked := by
  have hmade : ((start (Client.remote hangsUp).recorded ((caller, ()), []) ⟨[], []⟩ none 60 12).play
      (Client.remote hangsUp).recorded ⟨['t']⟩ ranAndAsked).map (fun s => s.remote.2) =
        some [.submit ['\n']] := by
    decide
  have hshown : ((start (Client.remote hangsUp) (caller, ()) ⟨[], []⟩ none 60 12).play
      (Client.remote hangsUp) ⟨['t']⟩ ranAndAsked).map (fun s => s.editor.label) =
        some "gateway g (offline)".toList := by
    decide
  obtain ⟨s, hplay, hs⟩ := Option.map_eq_some_iff.1 hmade
  obtain ⟨s', hplay', hs'⟩ := Option.map_eq_some_iff.1 hshown
  obtain ⟨hmodes, -, hlabels⟩ := draws_in_mode ⟨['t']⟩ ⟨[], []⟩ none 60 12 ranAndAsked
  have hlabel := (hlabels hangsUp caller () s' hplay').1
  exact ⟨s, s', hplay, hplay', (hmodes _ _ s hplay).1, hs, hs', hlabel.1 hs'⟩

end Session

end Runpad
