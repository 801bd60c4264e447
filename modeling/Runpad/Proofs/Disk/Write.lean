/-
  What writing changes on a disk.

  * `Writable` says that a path leads to a file, or to a place for one;
    `write_of_writable` and `writable_of_write`: such paths can be written, and no
    others;
  * `locate_put`: a file that was put somewhere does not change where paths lead,
    so that what was written is read back (`read_put`);
  * `save_cases`: a text is saved iff the path for it is writable, and nothing but
    the place of that path changes.
-/
import Mathlib
import Runpad.Store

namespace Runpad

/-! ## Steps that can fail -/

theorem ok_bind {ε α β : Type} (a : α) (f : α → Except ε β) : (Except.ok a >>= f) = f a := rfl

theorem error_bind {ε α β : Type} (fault : ε) (f : α → Except ε β) :
    (Except.error fault >>= f) = .error fault := rfl

theorem bind_eq_ok_iff {ε α β : Type} {x : Except ε α} {f : α → Except ε β} {b : β} :
    x >>= f = .ok b ↔ ∃ a, x = .ok a ∧ f a = .ok b := by
  cases x with
  | error fault => simp [error_bind]
  | ok a => simp [ok_bind]

namespace Disk

variable {d d' : Disk} {p : Path} {place : List Text} {content : Bytes}

/-- A path leads to a file, or to a place where there is nothing yet. -/
structure Writable (d : Disk) (p : Path) (place : List Text) : Prop where
  noSlash : p.getLast? ≠ some '/'
  located : d.locate p = .ok place
  noDirectory : d.at? place ≠ some .directory

/-- The root is a directory. -/
theorem Writable.ne_nil (h : d.Writable p place) : place ≠ [] := by
  rintro rfl
  exact h.noDirectory rfl

/-! ## Where paths lead -/

@[simp] theorem current_put (d : Disk) (place : List Text) (node : Node) :
    (d.put place node).current = d.current := by
  unfold put
  split <;> rfl

/-- A step goes on from a directory, so it does not see what is put where none
    is. -/
theorem step_put (h : d.at? place ≠ some .directory) (node : Node) {here there : List Text}
    {piece : Text} (hs : d.step here piece = .ok there) :
    (d.put place node).step here piece = .ok there := by
  have hne : here ≠ place := by
    rintro rfl
    unfold step at hs
    split at hs
    · cases hs
    · cases hs
    · next hdir => exact h hdir
  unfold step at hs ⊢
  rw [at?_put_of_ne d hne]
  exact hs

theorem steps_put (h : d.at? place ≠ some .directory) (node : Node) {pieces : List Text}
    {here there : List Text} (hs : pieces.foldlM d.step here = .ok there) :
    pieces.foldlM (d.put place node).step here = .ok there := by
  induction pieces generalizing here with
  | nil => exact hs
  | cons piece later ih =>
    rw [List.foldlM_cons, bind_eq_ok_iff] at hs
    obtain ⟨next, hp, hlater⟩ := hs
    rw [List.foldlM_cons, step_put h node hp]
    exact ih hlater

/-- Paths lead where they led before. -/
theorem locate_put (h : d.at? place ≠ some .directory) (node : Node) {there : List Text}
    (hl : d.locate p = .ok there) : (d.put place node).locate p = .ok there := by
  obtain ⟨checked, hc, hw⟩ := bind_eq_ok_iff.1 hl
  refine bind_eq_ok_iff.2 ⟨checked, hc, ?_⟩
  unfold walk
  rw [current_put]
  exact steps_put h node hw

/-! ## Writing files -/

theorem locateFile_eq_ok_iff :
    d.locateFile p = .ok place ↔ p.getLast? ≠ some '/' ∧ d.locate p = .ok place := by
  unfold locateFile
  split
  · next hslash =>
    refine ⟨fun h => ?_, fun h => absurd hslash h.1⟩
    -- Behind a slash there is only a directory to be had.
    obtain ⟨checked, -, hw⟩ := bind_eq_ok_iff.1 h
    obtain ⟨there, -, hfile⟩ := bind_eq_ok_iff.1 hw
    cases hfile
  · next hslash => exact ⟨fun h => ⟨hslash, h⟩, fun h => h.2⟩

theorem write_of_writable (h : d.Writable p place) (content : Bytes) :
    d.write p content = .ok (d.put place (.file content)) := by
  unfold write
  rw [locateFile_eq_ok_iff.2 ⟨h.noSlash, h.located⟩, ok_bind]
  split
  · next hdir => exact absurd hdir h.noDirectory
  · rfl

theorem writable_of_write (h : d.write p content = .ok d') : ∃ place, d.Writable p place := by
  obtain ⟨place, hl, hw⟩ := bind_eq_ok_iff.1 h
  obtain ⟨hslash, hlocate⟩ := locateFile_eq_ok_iff.1 hl
  refine ⟨place, hslash, hlocate, fun hdir => ?_⟩
  rw [hdir] at hw
  cases hw

/-- What was written is read back. -/
theorem read_put (h : d.Writable p place) (content : Bytes) :
    (d.put place (.file content)).read p = .ok content := by
  unfold read node?
  rw [locate_put h.noDirectory _ h.located, ok_bind, at?_put d h.ne_nil]
  rfl

theorem isDirectory_of_writable (h : d.Writable p place) : d.isDirectory p = false := by
  have hd := h.noDirectory
  unfold isDirectory node?
  rw [h.located, ok_bind]
  cases ha : d.at? place with
  | none => rfl
  | some node =>
    cases node with
    | directory => exact absurd ha hd
    | file content => rfl

end Disk

/-! ## Saving texts -/

namespace Store

theorem target_isOk (store : Store) {path : Path} (h : path ≠ []) :
    ∃ target, store.target path = .ok target := by
  unfold target
  rw [if_neg h]
  split <;> exact ⟨_, rfl⟩

/-- A text is saved, or the path for it cannot be written. -/
theorem save_cases {store : Store} {path target : Path} (h : store.target path = .ok target)
    (text : Text) (d : Disk) :
    (∃ place, d.Writable target place ∧
      store.save path text d = .ok (target, d.put place (.file (Utf8.encode text)))) ∨
    (∀ place, ¬ d.Writable target place) ∧ ∃ fault, store.save path text d = .error fault := by
  have hsave : store.save path text d =
      if d.isDirectory target then .error (.notFile target)
      else ((d.write target (Utf8.encode text)).mapError (.write target)).map fun d =>
        (target, d) := by
    rw [save, h, ok_bind]
  rw [hsave]
  by_cases hw : ∃ place, d.Writable target place
  · obtain ⟨place, hw⟩ := hw
    refine Or.inl ⟨place, hw, ?_⟩
    rw [Disk.isDirectory_of_writable hw, Disk.write_of_writable hw]
    rfl
  · refine Or.inr ⟨not_exists.1 hw, ?_⟩
    split
    · exact ⟨_, rfl⟩
    · cases hx : d.write target (Utf8.encode text) with
      | ok d' => exact absurd (Disk.writable_of_write hx) hw
      | error fault => exact ⟨_, rfl⟩

/-- A text is saved under the path that its name stands for, and only its place
    changes. -/
theorem writable_of_save {store : Store} {path target : Path} {text : Text} {d d' : Disk}
    (h : store.save path text d = .ok (target, d')) :
    store.target path = .ok target ∧
      ∃ place, d.Writable target place ∧ d' = d.put place (.file (Utf8.encode text)) := by
  obtain ⟨target', ht, -⟩ := bind_eq_ok_iff.1 h
  rcases save_cases ht text d with ⟨place, hw, hs⟩ | ⟨-, fault, hs⟩
  · rw [hs] at h
    cases h
    exact ⟨ht, place, hw, rfl⟩
  · rw [hs] at h
    cases h

end Store

end Runpad
