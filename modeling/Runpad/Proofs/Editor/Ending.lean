/-
  A session ends when it is asked to.

  * `Event.Leaves` and `Event.Interrupts` are the keys that can end a session, `Interrupting`
    is an interrupt that counts, `LastInterrupt` the time of the last one;
  * `handle_quit_iff`: what the editor ends for, by the time that it remembers;
    `interruptedAt_stepAt`: only an interrupt that counts changes that time, so that it is
    the one of the last of them (`interruptedAt_play`);
  * `AsksToEnd` says the same by what has happened, and `ends_when_asked` that a session ends
    for this and for nothing else.
-/
import Mathlib
import Runpad.Proofs.Editor.DrawnSessions

namespace Runpad

/-- The key that ends a session at once. -/
inductive Event.Leaves : Event → Prop
  | key {m : Modifiers} : m.control = true → Leaves (.key (.char 'q') m)

/-- The key that ends a session when it is pressed twice. -/
inductive Event.Interrupts : Event → Prop
  | key {m : Modifiers} : m.control = true → Interrupts (.key (.char 'c') m)

namespace Editor

variable {store : Store} {now : Nat} {e e' : Editor} {d d' : Disk} {event : Event} {flow : Flow}

/-! ## One event -/

/-- The editor after an interrupt that does not end it. -/
def interrupted (now : Nat) (e : Editor) : Editor :=
  { e with
    interruptedAt := some now
    status := .info "Press Ctrl+C again to quit".toList }

theorem handle_interrupt (hr : e.AtRest) (h : event.Interrupts) (store : Store) (now : Nat)
    (d : Disk) :
    e.handle store now event d =
      (if (e.interrupt now).1 then .quit else .proceed, (e.interrupt now).2, d) := by
  obtain ⟨hcontrol⟩ := h
  simp [handle, press, pressInRegion, command?, hr.prompt, hr.help, hcontrol]

theorem handle_leave (hr : e.AtRest) (h : event.Leaves) (store : Store) (now : Nat) (d : Disk) :
    e.handle store now event d = (.quit, e, d) := by
  obtain ⟨hcontrol⟩ := h
  simp [handle, press, pressInRegion, command?, hr.prompt, hr.help, hcontrol]

/-- The second of two interrupts ends the editor. -/
theorem interrupt_again {last : Nat} (hlast : e.interruptedAt = some last)
    (hnow : now ≤ last + interruptWindow) : (e.interrupt now).1 = true := by
  have hsome : (e.interruptedAt.filter fun last => now - last ≤ interruptWindow) = some last := by
    rw [Option.filter_eq_some_iff, decide_eq_true_eq]
    exact ⟨hlast, by omega⟩
  rw [interrupt, hsome]

/-- Any other interrupt is remembered. -/
theorem interrupt_first (h : ∀ last, e.interruptedAt = some last → last + interruptWindow < now) :
    e.interrupt now = (false, e.interrupted now) := by
  have hnone : (e.interruptedAt.filter fun last => now - last ≤ interruptWindow) = none := by
    rw [Option.filter_eq_none_iff]
    intro last hlast
    have := h last hlast
    rw [decide_eq_true_eq]
    omega
  rw [interrupt, hnone]
  rfl

/-- **What the editor ends for.** -/
theorem handle_quit_iff :
    (e.handle store now event d).1 = .quit ↔
      e.AtRest ∧ (event.Leaves ∨ event.Interrupts ∧
        ∃ last, e.interruptedAt = some last ∧ now ≤ last + interruptWindow) := by
  constructor
  · intro h
    have hresponse := handle_response store now d event (e := e)
    rcases hh : e.handle store now event d with ⟨flow, e', d'⟩
    rw [hh] at h hresponse
    obtain rfl : flow = .quit := h
    cases hresponse with
    | interruptedAgain hr hcontrol hlast hnow =>
      exact ⟨hr, Or.inr ⟨.key hcontrol, _, hlast, by omega⟩⟩
    | left hr hcontrol => exact ⟨hr, Or.inl (.key hcontrol)⟩
  · rintro ⟨hr, hleave | ⟨hinterrupt, last, hlast, hnow⟩⟩
    · rw [handle_leave hr hleave]
    · rw [handle_interrupt hr hinterrupt, interrupt_again hlast hnow]
      rfl

theorem interruptedAt_mapFocused (move : TextArea → TextArea) (e : Editor) :
    (e.mapFocused move).interruptedAt = e.interruptedAt := by
  unfold mapFocused
  split <;> rfl

/-- Only an interrupt that counts changes the time that is remembered. -/
theorem Response.interruptedAt (h : Response store now e d event flow e' d')
    (hno : ¬ (e.AtRest ∧ event.Interrupts)) : e'.interruptedAt = e.interruptedAt := by
  cases h with
  | interrupted hr hcontrol | interruptedAgain hr hcontrol => exact absurd ⟨hr, .key hcontrol⟩ hno
  | moved => exact interruptedAt_mapFocused _ _
  | _ => rfl

end Editor

namespace Session

open Editor

variable {σ : Type} {remote : Remote σ} {store : Store} {s s' : Session σ} {m : Moment}

theorem step_next_eq_none_iff {now : Nat} {event : Event} :
    (s.step remote store now event).next = none ↔
      (s.editor.handle store now event s.disk).1 = .quit := by
  rcases hh : s.editor.handle store now event s.disk with ⟨flow, e, d⟩
  simp only [step, editor_resize, disk_resize, hh]
  cases flow <;> simp

theorem interruptedAt_run (remote : Remote σ) (s : Session σ) :
    (s.execute remote .run).2.editor.interruptedAt = s.editor.interruptedAt := by
  simp only [execute, completeRun]
  split <;> rfl

theorem interruptedAt_step {now : Nat} {event : Event}
    (h : (s.step remote store now event).next = some s')
    (hno : ¬ (s.editor.AtRest ∧ event.Interrupts)) :
    s'.editor.interruptedAt = s.editor.interruptedAt := by
  cases advance_of_step h with
  | responded hresponse => exact hresponse.interruptedAt hno
  | asked => rfl
  | ran => exact interruptedAt_run remote s

/-- An interrupt that does not end the session changes the time that is remembered and what
    the status bar says, and nothing else. -/
theorem step_interrupt (hdrawn : Drawn s) (hr : s.editor.AtRest) {now : Nat} {event : Event}
    (h : event.Interrupts)
    (hfirst : ∀ last, s.editor.interruptedAt = some last → last + interruptWindow < now) :
    s.step remote store now event =
      { next := some { s with editor := s.editor.interrupted now } } := by
  have hhandle := handle_interrupt hr h store now s.disk
  rw [interrupt_first hfirst] at hhandle
  have hstill : Drawn { s with editor := s.editor.interrupted now } := hdrawn.congr rfl rfl rfl
  have hsize : s.resize event = s := by
    obtain ⟨hcontrol⟩ := h
    rfl
  rw [step_proceed hhandle, hsize]
  exact congrArg (fun next => ({ next := some next } : Step σ)) hstill.draw

/-! ## Many events -/

/-- The moment is an interrupt that counts: nothing is in front of the regions. -/
def Interrupting (v : Session σ × Moment) : Prop :=
  v.1.editor.AtRest ∧ v.2.event.Interrupts

/-- The last of the interrupts that count came at the time `last`. -/
def LastInterrupt (visited : List (Session σ × Moment)) (last : Nat) : Prop :=
  ∃ before v after, visited = before ++ v :: after ∧ Interrupting v ∧ v.2.now = last ∧
    ∀ w ∈ after, ¬ Interrupting w

variable {visited : List (Session σ × Moment)} {v : Session σ × Moment} {last : Nat}

theorem not_lastInterrupt_nil : ¬ LastInterrupt ([] : List (Session σ × Moment)) last := by
  rintro ⟨before, v, after, h, -⟩
  simp at h

/-- A list cut at one of its elements, which is the last one or comes before it. -/
theorem concat_cases {α : Type} {l before after : List α} {v w : α}
    (h : l ++ [v] = before ++ w :: after) :
    (after = [] ∧ w = v) ∨ ∃ between, after = between ++ [v] ∧ l = before ++ w :: between := by
  rcases after.eq_nil_or_concat with rfl | ⟨between, x, rfl⟩
  · obtain ⟨-, hsame⟩ := List.append_inj' h rfl
    exact Or.inl ⟨rfl, (List.cons.inj hsame).1.symm⟩
  · rw [List.concat_eq_append, ← List.cons_append, ← List.append_assoc] at h
    obtain ⟨hearlier, hsame⟩ := List.append_inj' h rfl
    refine Or.inr ⟨between, ?_, hearlier⟩
    rw [List.concat_eq_append, hsame]

/-- One more interrupt is the last one. -/
theorem lastInterrupt_concat (h : Interrupting v) :
    LastInterrupt (visited ++ [v]) last ↔ v.2.now = last := by
  constructor
  · rintro ⟨before, w, after, hvisited, -, hlast, hafter⟩
    rcases concat_cases hvisited with ⟨-, rfl⟩ | ⟨between, rfl, -⟩
    · exact hlast
    · exact absurd h (hafter v (by simp))
  · intro hlast
    exact ⟨visited, v, [], rfl, h, hlast, by simp⟩

/-- Any other moment leaves the last one. -/
theorem lastInterrupt_concat_of_not (h : ¬ Interrupting v) :
    LastInterrupt (visited ++ [v]) last ↔ LastInterrupt visited last := by
  constructor
  · rintro ⟨before, w, after, hvisited, hw, hlast, hafter⟩
    rcases concat_cases hvisited with ⟨-, rfl⟩ | ⟨between, rfl, hearlier⟩
    · exact absurd hw h
    · exact ⟨before, w, between, hearlier, hw, hlast, fun y hy => hafter y (by simp [hy])⟩
  · rintro ⟨before, w, after, rfl, hw, hlast, hafter⟩
    refine ⟨before, w, after ++ [v], by simp, hw, hlast, fun y hy => ?_⟩
    rcases List.mem_append.1 hy with hy | hy
    · exact hafter y hy
    · rwa [List.mem_singleton.1 hy]

/-- An interrupt that counts is remembered, and any other moment keeps what is. -/
theorem interruptedAt_stepAt (hdrawn : Drawn s) (h : (s.stepAt remote store m).next = some s') :
    (Interrupting (s.foundAt m, m) → s'.editor.interruptedAt = some m.now) ∧
      (¬ Interrupting (s.foundAt m, m) → s'.editor.interruptedAt = s.editor.interruptedAt) := by
  refine ⟨fun ⟨hr, hinterrupt⟩ => ?_, fun hno => interruptedAt_step (s := s.foundAt m) h hno⟩
  have hnotQuit : ¬ ((s.foundAt m).editor.handle store m.now m.event (s.foundAt m).disk).1 =
      .quit := by
    intro hquit
    have hnone : (s.stepAt remote store m).next = none := step_next_eq_none_iff.2 hquit
    rw [h] at hnone
    cases hnone
  have hfirst : ∀ last, s.editor.interruptedAt = some last → last + interruptWindow < m.now := by
    intro last hlast
    by_contra hnow
    exact hnotQuit (handle_quit_iff.mpr ⟨hr, Or.inr ⟨hinterrupt, last, hlast, by omega⟩⟩)
  rw [stepAt, step_interrupt (hdrawn.foundAt m) hr hinterrupt hfirst] at h
  cases h
  rfl

/-- The time that is remembered is the one of the last interrupt that counts. -/
theorem interruptedAt_play {moments : List Moment} (hdrawn : Drawn s)
    (hnone : s.editor.interruptedAt = none) (hplay : s.play remote store moments = some s')
    (last : Nat) :
    s'.editor.interruptedAt = some last ↔ LastInterrupt (s.visits remote store moments) last := by
  refine (play_induction (P := fun visited s₁ => Drawn s₁ ∧
    (s₁.editor.interruptedAt = some last ↔ LastInterrupt visited last)) ⟨hdrawn, ?_⟩ ?_ hplay).2
  · rw [hnone]
    exact iff_of_false nofun not_lastInterrupt_nil
  · rintro visited s₁ m s₂ ⟨h₁, ih⟩ hm
    obtain ⟨hcounts, hkeeps⟩ := interruptedAt_stepAt h₁ hm
    refine ⟨drawn_step hm, ?_⟩
    by_cases h : Interrupting (s₁.foundAt m, m)
    · rw [hcounts h, lastInterrupt_concat h, Option.some.injEq]
    · rw [hkeeps h, lastInterrupt_concat_of_not h, ih]

/-! ## What ends a session -/

/-- The event of the moment asks to end a session that has come this way. -/
inductive AsksToEnd (visited : List (Session σ × Moment)) (s : Session σ) (m : Moment) : Prop
  | leave : s.editor.AtRest → m.event.Leaves → AsksToEnd visited s m
  | interruptAgain {last : Nat} : s.editor.AtRest → m.event.Interrupts →
      LastInterrupt visited last → m.now ≤ last + 500 → AsksToEnd visited s m

/-- It is what the editor goes by, if it remembers the last interrupt. -/
theorem asksToEnd_iff
    (h : ∀ last, s.editor.interruptedAt = some last ↔ LastInterrupt visited last) :
    (s.editor.AtRest ∧ (m.event.Leaves ∨ m.event.Interrupts ∧
      ∃ last, s.editor.interruptedAt = some last ∧ m.now ≤ last + interruptWindow)) ↔
        AsksToEnd visited s m := by
  constructor
  · rintro ⟨hr, hleave | ⟨hinterrupt, last, hlast, hnow⟩⟩
    · exact .leave hr hleave
    · exact .interruptAgain hr hinterrupt ((h last).mp hlast) hnow
  · rintro (⟨hr, hleave⟩ | ⟨hr, hinterrupt, hlast, hnow⟩)
    · exact ⟨hr, Or.inl hleave⟩
    · exact ⟨hr, Or.inr ⟨hinterrupt, _, (h _).mpr hlast, hnow⟩⟩

theorem interruptedAt_start (remote : Remote σ) (r : σ) (d : Disk) (file : Option Path)
    (width height : Nat) : (start remote r d file width height).editor.interruptedAt = none := by
  cases file with
  | none => rfl
  | some path =>
    simp only [start, openFile]
    split <;> rfl

/-- A session is over once an event has ended it. -/
theorem play_eq_none_iff {moments : List Moment} :
    s.play remote store moments = none ↔
      ∃ earlier m later s', moments = earlier ++ m :: later ∧
        s.play remote store earlier = some s' ∧ (s'.stepAt remote store m).next = none := by
  induction moments generalizing s with
  | nil => simp [play]
  | cons m later ih =>
    constructor
    · intro h
      cases hnext : (s.stepAt remote store m).next with
      | none => exact ⟨[], m, later, s, rfl, rfl, hnext⟩
      | some s₁ =>
        rw [play, hnext] at h
        obtain ⟨earlier, m', later', s', rfl, hplay, hend⟩ := ih.mp h
        refine ⟨m :: earlier, m', later', s', rfl, ?_, hend⟩
        rw [play, hnext]
        exact hplay
    · rintro ⟨earlier, m', later', s', hmoments, hplay, hend⟩
      cases earlier with
      | nil =>
        cases hplay
        cases hmoments
        rw [play, hend]
        rfl
      | cons first earlier =>
        obtain ⟨rfl, rfl⟩ := List.cons.inj hmoments
        obtain ⟨s₁, hnext, hrest⟩ := Option.bind_eq_some_iff.1 hplay
        rw [play, hnext]
        exact ih.mpr ⟨earlier, m', later', s', rfl, hrest, hend⟩

/-- **A session ends when it is asked to**, and for nothing else.  The event that ends it is
    Ctrl+Q, or a Ctrl+C at most half a second after the last one, and nothing is in front of
    the regions.  What else happens between the two does not matter; a Ctrl+C does not count
    while a prompt or the page of help is shown.  One that counts and does not end the session
    is remembered and announced, and changes nothing else. -/
theorem ends_when_asked (remote : Remote σ) (store : Store) (r : σ) (d : Disk)
    (file : Option Path) (width height : Nat) :
    (∀ moments, (start remote r d file width height).play remote store moments = none ↔
      ∃ earlier m later s, moments = earlier ++ m :: later ∧
        (start remote r d file width height).play remote store earlier = some s ∧
        AsksToEnd ((start remote r d file width height).visits remote store earlier) s m) ∧
    ∀ moments s, (start remote r d file width height).play remote store moments = some s →
      ∀ m,
        ((s.stepAt remote store m).next = none ↔
          AsksToEnd ((start remote r d file width height).visits remote store moments) s m) ∧
        (s.editor.AtRest → m.event.Interrupts →
          ¬ AsksToEnd ((start remote r d file width height).visits remote store moments) s m →
            s.stepAt remote store m =
              { next := some { s.foundAt m with editor := s.editor.interrupted m.now } }) := by
  have hdrawn := drawn_start remote r d file width height
  have hnone := interruptedAt_start remote r d file width height
  have hasked : ∀ moments s,
      (start remote r d file width height).play remote store moments = some s →
      ∀ m, (s.stepAt remote store m).next = none ↔
        AsksToEnd ((start remote r d file width height).visits remote store moments) s m := by
    intro moments s hplay m
    rw [stepAt, step_next_eq_none_iff, handle_quit_iff]
    exact asksToEnd_iff (interruptedAt_play hdrawn hnone hplay)
  refine ⟨fun moments => ?_, fun moments s hplay m => ⟨hasked moments s hplay m, ?_⟩⟩
  · rw [play_eq_none_iff]
    constructor
    · rintro ⟨earlier, m, later, s, rfl, hplay, hend⟩
      exact ⟨earlier, m, later, s, rfl, hplay, (hasked earlier s hplay m).mp hend⟩
    · rintro ⟨earlier, m, later, s, rfl, hplay, hasks⟩
      exact ⟨earlier, m, later, s, rfl, hplay, (hasked earlier s hplay m).mpr hasks⟩
  · intro hr hinterrupt hno
    refine step_interrupt ((drawn_play hdrawn hplay).foundAt m) hr hinterrupt fun last hlast => ?_
    by_contra hnow
    have hlast := (interruptedAt_play hdrawn hnone hplay last).mp hlast
    exact hno (.interruptAgain hr hinterrupt hlast (Nat.le_of_not_lt hnow))

/-- Ctrl+C at the given time. -/
def interruptAt (now : Nat) : Moment :=
  ⟨now, .key (.char 'c') { control := true }, id⟩

/-- An interrupt, a character, the page of help, and an interrupt that only closes it. -/
def interruptedOnce : List Moment :=
  [interruptAt 100, ⟨200, .key (.char 'x') {}, id⟩, ⟨300, .key (.function 1) {}, id⟩,
    interruptAt 400]

/-- One more interrupt ends the session up to half a second after the first one. -/
theorem interruptedOnce_ends :
    ∃ s, fresh.play absent ⟨['t']⟩ interruptedOnce = some s ∧ s.editor.AtRest ∧
      AsksToEnd (fresh.visits absent ⟨['t']⟩ interruptedOnce) s (interruptAt 600) ∧
      ¬ AsksToEnd (fresh.visits absent ⟨['t']⟩ interruptedOnce) s (interruptAt 601) ∧
      s.stepAt absent ⟨['t']⟩ (interruptAt 601) =
        { next := some
            { s.foundAt (interruptAt 601) with editor := s.editor.interrupted 601 } } := by
  have hends : (fresh.play absent ⟨['t']⟩ interruptedOnce).map (fun s =>
      (s.editor.prompt, s.editor.help, (s.stepAt absent ⟨['t']⟩ (interruptAt 600)).next.isNone,
        (s.stepAt absent ⟨['t']⟩ (interruptAt 601)).next.isNone)) =
      some (none, false, true, false) := by
    decide
  obtain ⟨s, hplay, hs⟩ := Option.map_eq_some_iff.1 hends
  simp only [Prod.mk.injEq, Option.isNone_iff_eq_none, Option.isNone_eq_false_iff] at hs
  obtain ⟨hprompt, hhelp, hsoon, hlate⟩ := hs
  have hasked := (ends_when_asked absent ⟨['t']⟩ () ⟨[], []⟩ none 60 12).2 interruptedOnce s hplay
  have hno : ¬ AsksToEnd (fresh.visits absent ⟨['t']⟩ interruptedOnce) s (interruptAt 601) := by
    intro hasks
    rw [(hasked _).1.mpr hasks] at hlate
    cases hlate
  exact ⟨s, hplay, ⟨hprompt, hhelp⟩, (hasked _).1.mp hsoon, hno,
    (hasked _).2 ⟨hprompt, hhelp⟩ (.key rfl) hno⟩

end Session

end Runpad
