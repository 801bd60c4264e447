/-
  A session over many events.

  * `Advance` lists how an event leads from one draw to the next;
    `advance_of_step`: there is no other way;
  * `Moment` is an event at its time, with what others did to the disk before it;
    `play` takes several moments, `visits` are the sessions that they come to;
  * `play_induction`: what one moment preserves, a whole session does;
    `play_keeps`: what all of its moments keep, it keeps;
  * `fresh` is a session to play with.
-/
import Mathlib
import Runpad.Editor.Session
import Runpad.Proofs.Editor.Response

namespace Runpad

/-- An event at a time in milliseconds, and what others did to the disk since
    the event before it. -/
structure Moment where
  now : Nat
  event : Event
  others : Disk → Disk := id

namespace Session

variable {σ : Type} {remote : Remote σ} {store : Store} {s s' : Session σ}

/-! ## One event -/

/-- How an event leads from one draw to the next. -/
inductive Advance (remote : Remote σ) (store : Store) (now : Nat) (event : Event)
    (s : Session σ) : Session σ → Prop
  | responded {e d} : Editor.Response store now s.editor s.disk event .proceed e d →
      Advance remote store now event s (draw { s.resize event with editor := e, disk := d })
  | asked (purpose : Purpose) : s.editor.AtRest → s.editor.Orders event purpose.command →
      Advance remote store now event s (draw { s with editor := s.editor.ask purpose })
  | ran : s.editor.AtRest → s.editor.Orders event .run →
      Advance remote store now event s (draw (s.execute remote .run).2)

theorem resize_of_orders {e : Editor} {event : Event} {command : Command}
    (h : e.Orders event command) (s : Session σ) : s.resize event = s := by
  cases h <;> rfl

@[simp] theorem editor_resize (event : Event) (s : Session σ) :
    (s.resize event).editor = s.editor := by
  cases event <;> rfl

@[simp] theorem disk_resize (event : Event) (s : Session σ) :
    (s.resize event).disk = s.disk := by
  cases event <;> rfl

@[simp] theorem remote_resize (event : Event) (s : Session σ) :
    (s.resize event).remote = s.remote := by
  cases event <;> rfl

/-- An order is executed. -/
theorem step_order (hr : s.editor.AtRest) {event : Event} {command : Command}
    (h : s.editor.Orders event command) (now : Nat) :
    s.step remote store now event =
      { during := (s.execute remote command).1, next := some (s.execute remote command).2.draw } := by
  simp only [step, resize_of_orders h, Editor.handle_order store now s.disk hr h]

/-- An event that nothing has to follow. -/
theorem step_proceed {now : Nat} {event : Event} {e : Editor} {d : Disk}
    (h : s.editor.handle store now event s.disk = (.proceed, e, d)) :
    s.step remote store now event =
      { next := some (draw { s.resize event with editor := e, disk := d }) } := by
  simp only [step, editor_resize, disk_resize, h]

theorem advance_of_step {now : Nat} {event : Event}
    (h : (s.step remote store now event).next = some s') :
    Advance remote store now event s s' := by
  have hresponse := Editor.handle_response store now s.disk event (e := s.editor)
  rcases hh : s.editor.handle store now event s.disk with ⟨flow, e, d⟩
  rw [hh] at hresponse
  cases flow with
  | proceed =>
    rw [step_proceed hh] at h
    cases h
    exact .responded hresponse
  | quit =>
    simp only [step, editor_resize, disk_resize, hh] at h
    cases h
  | execute command =>
    cases hresponse with
    | ordered hr ho =>
      rw [step_order hr ho] at h
      cases h
      cases command with
      | run => exact .ran hr ho
      | save => exact .asked .save hr ho
      | «open» => exact .asked .open hr ho

/-! ## Many events -/

/-- The session as the event of a moment finds it. -/
def foundAt (m : Moment) (s : Session σ) : Session σ :=
  { s with disk := m.others s.disk }

/-- Takes the event of a moment. -/
def stepAt (remote : Remote σ) (store : Store) (m : Moment) (s : Session σ) : Step σ :=
  (s.foundAt m).step remote store m.now m.event

/-- The session after several moments, if none of them ended it. -/
def play (remote : Remote σ) (store : Store) : List Moment → Session σ → Option (Session σ)
  | [], s => some s
  | m :: later, s => (s.stepAt remote store m).next.bind (play remote store later)

/-- The sessions that the events of several moments find, each with its moment. -/
def visits (remote : Remote σ) (store : Store) :
    List Moment → Session σ → List (Session σ × Moment)
  | [], _ => []
  | m :: later, s =>
    (s.foundAt m, m) :: (s.stepAt remote store m).next.elim [] (visits remote store later)

/-- Only these moments are visited. -/
theorem mem_of_mem_visits {moments : List Moment} {v : Session σ × Moment}
    (h : v ∈ s.visits remote store moments) : v.2 ∈ moments := by
  induction moments generalizing s with
  | nil => cases h
  | cons m later ih =>
    rcases List.mem_cons.1 h with rfl | hlater
    · exact List.mem_cons_self
    · refine List.mem_cons_of_mem m ?_
      cases hn : (s.stepAt remote store m).next with
      | none =>
        rw [hn] at hlater
        cases hlater
      | some s₁ =>
        rw [hn] at hlater
        exact ih hlater

/-- What holds at first, and after each moment if it did before, holds after all
    of them. -/
theorem play_induction {P : List (Session σ × Moment) → Session σ → Prop} (h₀ : P [] s)
    (hstep : ∀ visited s₁ m s₂, P visited s₁ → (s₁.stepAt remote store m).next = some s₂ →
      P (visited ++ [(s₁.foundAt m, m)]) s₂)
    {moments : List Moment} (h : s.play remote store moments = some s') :
    P (s.visits remote store moments) s' := by
  suffices ∀ visited s₁, P visited s₁ → s₁.play remote store moments = some s' →
      P (visited ++ s₁.visits remote store moments) s' from by
    simpa using this [] s h₀ h
  clear h h₀
  induction moments with
  | nil =>
    intro visited s₁ hv h
    cases h
    simpa [visits] using hv
  | cons m later ih =>
    intro visited s₁ hv h
    obtain ⟨s₂, hm, hlater⟩ := Option.bind_eq_some_iff.1 h
    have := ih _ s₂ (hstep visited s₁ m s₂ hv hm) hlater
    simpa [visits, hm] using this

/-- What every visited moment keeps, a whole session keeps. -/
theorem play_keeps {α : Type} (f : Session σ → α) {P : Session σ × Moment → Prop}
    (hstep : ∀ s₁ m s₂, P (s₁.foundAt m, m) → (s₁.stepAt remote store m).next = some s₂ →
      f s₂ = f s₁)
    {moments : List Moment} (h : s.play remote store moments = some s')
    (hp : ∀ v ∈ s.visits remote store moments, P v) : f s' = f s := by
  refine play_induction (P := fun visited s₁ => (∀ v ∈ visited, P v) → f s₁ = f s)
    (fun _ => rfl) ?_ h hp
  intro visited s₁ m s₂ ih hm hv
  have hlast : P (s₁.foundAt m, m) := hv _ (by simp)
  calc f s₂ = f s₁ := hstep s₁ m s₂ hlast hm
    _ = f s := ih fun v hmem => hv v (List.mem_append_left _ hmem)

/-! ## A session to play with -/

/-- An interpreter that is never there. -/
def absent : Remote Unit where
  submit _ r := (.error .closed, r)
  fetch r := (.error .closed, r)
  describe _ := []

/-- A session without an interpreter, on an empty disk. -/
def fresh : Session Unit :=
  start absent () ⟨[], []⟩ none 60 12

/-- The order to save. -/
def saveOrder : Moment :=
  ⟨0, .key (.char 's') { control := true }, id⟩

end Session

end Runpad
