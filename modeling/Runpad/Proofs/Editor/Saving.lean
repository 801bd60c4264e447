/-
  What a session does to the disk.

  * `SavesTo` is the event that confirms a prompt for saving; `Response.disk`: no
    other event changes the disk;
  * `Saved` and `NotSaved` are the two outcomes of such an event; `step_saves`: a
    path that is writable leads to the first, any other to the second, and at most
    the place of that path changes;
  * `changed_play`: what a whole session has changed was saved.
-/
import Mathlib
import Runpad.Proofs.Disk.Write
import Runpad.Proofs.Editor.Play

namespace Runpad

namespace Editor

/-- The event confirms a prompt for saving, whose path without the blanks around
    it is `path`. -/
inductive SavesTo (e : Editor) : Event → Path → Prop
  | confirm {m : Modifiers} {p : Prompt} {path : Path} : e.prompt = some p →
      p.purpose = .save → Text.trim p.path = path → path ≠ [] → SavesTo e (.key .enter m) path

variable {store : Store} {now : Nat} {e e' : Editor} {d d' : Disk} {event : Event} {flow : Flow}

theorem SavesTo.ne_nil {path : Path} (h : e.SavesTo event path) : path ≠ [] := by
  cases h with
  | confirm _ _ _ hne => exact hne

theorem SavesTo.handle {path : Path} (h : e.SavesTo event path) (store : Store) (now : Nat)
    (d : Disk) :
    e.handle store now event d = (.proceed, { e with prompt := none }.saveFile store (some path) d) := by
  cases h with
  | @confirm m p path hp hu htrim hne =>
    have hc : p.chosen = some path := Prompt.chosen_eq_some_iff.2 ⟨htrim, hne⟩
    rw [handle_enter store now d hp, hu, hc]
    rfl

/-- Only a confirmed prompt for saving changes the disk. -/
theorem Response.disk (h : Response store now e d event flow e' d') :
    d' = d ∨ ∃ path, e.SavesTo event path := by
  cases h with
  | saved hp hu hc hs =>
    obtain ⟨htrim, hne⟩ := Prompt.chosen_eq_some_iff.1 hc
    exact Or.inr ⟨_, .confirm hp hu htrim hne⟩
  | _ => exact Or.inl rfl

end Editor

namespace Session

open Editor

variable {σ : Type} {remote : Remote σ} {store : Store} {s s' : Session σ}

/-! ## One event -/

/-- The disk after an event, also after one that ends the session. -/
def diskAfter (store : Store) (now : Nat) (event : Event) (s : Session σ) : Disk :=
  (s.editor.handle store now event s.disk).2.2

theorem diskAfter_of_not_savesTo (store : Store) {event : Event} (h : ∀ path, ¬ s.editor.SavesTo event path)
    (now : Nat) : s.diskAfter store now event = s.disk := by
  rcases (handle_response store now s.disk event).disk with hd | ⟨path, hs⟩
  · exact hd
  · exact absurd hs (h path)

theorem disk_of_step {now : Nat} {event : Event}
    (h : (s.step remote store now event).next = some s') :
    s'.disk = s.diskAfter store now event := by
  rcases hh : s.editor.handle store now event s.disk with ⟨flow, e, d⟩
  simp only [step, editor_resize, disk_resize, hh] at h
  simp only [diskAfter, hh]
  cases flow with
  | proceed =>
    cases h
    rfl
  | quit => cases h
  | execute command =>
    cases h
    cases command <;> rfl

/-- `s'` is `s` after the input was saved under the path `target`. -/
structure Saved (target : Path) (s s' : Session σ) : Prop where
  status : s'.editor.status = .info ("Saved ".toList ++ target)
  input : s'.editor.input.text = s.editor.input.text
  file : s'.disk.read target = .ok (Utf8.encode s'.editor.input.text)
  path : s'.editor.path = some target
  modified : s'.editor.modified = false

/-- `s'` is `s` after the input could not be saved. -/
structure NotSaved (s s' : Session σ) : Prop where
  status : ∃ message, s'.editor.status = .error message
  disk : s'.disk = s.disk

/-- A confirmed prompt saves the input under its path, if that can be done. -/
theorem step_saves (remote : Remote σ) {event : Event} {path target : Path} (h : s.editor.SavesTo event path)
    (ht : store.target path = .ok target) (now : Nat) :
    ∃ s', s.step remote store now event = { next := some s' } ∧
      (∀ place, s'.disk.at? place ≠ s.disk.at? place → s.disk.locate target = .ok place) ∧
      ((∃ place, s.disk.Writable target place) ∧ Saved target s s' ∨
        (∀ place, ¬ s.disk.Writable target place) ∧ NotSaved s s') := by
  have hh := h.handle store now s.disk
  rcases Store.save_cases ht s.editor.input.text s.disk with ⟨place, hw, hs⟩ | ⟨hw, fault, hs⟩
  · simp only [saveFile, hs] at hh
    refine ⟨_, step_proceed hh, fun other hne => ?_, Or.inl ⟨⟨place, hw⟩, ?_⟩⟩
    · have : other = place := by
        by_contra hother
        exact hne (Disk.at?_put_of_ne s.disk hother _)
      rw [this, hw.located]
    · exact ⟨rfl, rfl, Disk.read_put hw _, rfl, rfl⟩
  · simp only [saveFile, hs] at hh
    refine ⟨_, step_proceed hh, fun other hne => absurd rfl hne, Or.inr ⟨hw, ?_⟩⟩
    exact ⟨⟨_, rfl⟩, rfl⟩

/-! ## Over a whole session -/

/-- The event saves the input at a place of the disk. -/
def SavesAt (store : Store) (event : Event) (place : List Text) (s : Session σ) : Prop :=
  ∃ path target, s.editor.SavesTo event path ∧ store.target path = .ok target ∧
    s.disk.locate target = .ok place

theorem savesAt_of_changed {now : Nat} {event : Event} {place : List Text}
    (h : (s.step remote store now event).next = some s')
    (hne : s'.disk.at? place ≠ s.disk.at? place) : s.SavesAt store event place := by
  by_cases hs : ∃ path, s.editor.SavesTo event path
  · obtain ⟨path, hs⟩ := hs
    obtain ⟨target, ht⟩ := store.target_isOk hs.ne_nil
    obtain ⟨s₁, hstep, hchanged, -⟩ := step_saves remote hs ht now
    rw [hstep] at h
    cases h
    exact ⟨path, target, hs, ht, hchanged place hne⟩
  · rw [disk_of_step h, diskAfter_of_not_savesTo store (not_exists.1 hs)] at hne
    exact absurd rfl hne

/-- If nobody else writes, a place that has changed was saved to. -/
theorem changed_play {moments : List Moment} (h : s.play remote store moments = some s')
    (hothers : ∀ v ∈ s.visits remote store moments, v.2.others = id) {place : List Text}
    (hne : s'.disk.at? place ≠ s.disk.at? place) :
    ∃ v ∈ s.visits remote store moments, v.1.SavesAt store v.2.event place := by
  by_contra hno
  refine hne (play_keeps (fun s => s.disk.at? place)
    (P := fun v => v.2.others = id ∧ ¬ v.1.SavesAt store v.2.event place) ?_ h ?_)
  · rintro s₁ m s₂ ⟨hid, hsaves⟩ hm
    have hfound : (s₁.foundAt m).disk = s₁.disk := by rw [foundAt, hid, id_eq]
    have hkept : s₂.disk.at? place = (s₁.foundAt m).disk.at? place := by
      by_contra hchanged
      exact hsaves (savesAt_of_changed (s := s₁.foundAt m) hm hchanged)
    rw [hkept, hfound]
  · exact fun v hv => ⟨hothers v hv, fun hsaves => hno ⟨v, hv, hsaves⟩⟩

/-- **The disk changes only by a confirmed save, and the file is then the input.**
    Any other event leaves the disk as it is.  A save changes at most the place
    of the path that the prompt stands for; if that path is writable it is
    reported, and the file holds the input, else the fault is, and the disk stays.
    So what a whole session has changed, if nobody else writes, was saved. -/
theorem disk_changes_by_saving (remote : Remote σ) (store : Store) (s : Session σ) :
    (∀ now event, (∀ path, ¬ s.editor.SavesTo event path) →
      s.diskAfter store now event = s.disk ∧
      ∀ s', (s.step remote store now event).next = some s' → s'.disk = s.disk) ∧
    (∀ now event path, s.editor.SavesTo event path → ∃ target, store.target path = .ok target ∧
      ∃ s', s.step remote store now event = { next := some s' } ∧
        (∀ place, s'.disk.at? place ≠ s.disk.at? place → s.disk.locate target = .ok place) ∧
        ((∃ place, s.disk.Writable target place) ∧ Saved target s s' ∨
          (∀ place, ¬ s.disk.Writable target place) ∧ NotSaved s s')) ∧
    ∀ moments s', s.play remote store moments = some s' →
      (∀ v ∈ s.visits remote store moments, v.2.others = id) →
      ∀ place, s'.disk.at? place ≠ s.disk.at? place →
        ∃ v ∈ s.visits remote store moments, v.1.SavesAt store v.2.event place := by
  refine ⟨fun now event hno => ?_, fun now event path h => ?_, fun _ _ h ho _ => changed_play h ho⟩
  · have hdisk := diskAfter_of_not_savesTo store hno now
    exact ⟨hdisk, fun s' h => (disk_of_step h).trans hdisk⟩
  · obtain ⟨target, ht⟩ := store.target_isOk h.ne_nil
    exact ⟨target, ht, step_saves remote h ht now⟩

end Session

end Runpad
