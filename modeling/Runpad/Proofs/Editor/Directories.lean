/-
  Directories where a file is asked for.

  * `isDirectory_put`: a file that is put somewhere leaves every directory one;
  * `Stands` says for which file a path stands: itself, or the name in it with the
    extension; `target_eq_ok_iff`: this is where a text is saved;
  * `save_eq_notFile_iff`: a save refuses a directory iff the path stands for one;
  * `directories_refused`: so an opening refuses every directory, and a save refuses
    the ones whose path stands for itself.  Any other one stays, and the text goes to
    the file that its path stands for (`bareDirectory_not_refused`).
-/
import Mathlib
import Runpad.Proofs.Disk.Extension
import Runpad.Proofs.Disk.RoundTrip
import Runpad.Proofs.Editor.Filing

namespace Runpad

namespace Disk

variable {d : Disk} {p : Path} {place : List Text}

/-- A file that is put where no directory is leaves every directory one. -/
theorem isDirectory_put (h : d.at? place ≠ some .directory) (node : Node)
    (hdir : d.isDirectory p = true) : (d.put place node).isDirectory p = true := by
  rw [isDirectory_eq_true_iff, node?] at hdir ⊢
  obtain ⟨there, hl, hn⟩ := bind_eq_ok_iff.1 hdir
  have hthere : d.at? there = some .directory := by
    cases ha : d.at? there with
    | none => rw [ha] at hn; cases hn
    | some found => rw [ha] at hn; cases hn; rfl
  have hne : there ≠ place := by
    rintro rfl
    exact h hthere
  rw [locate_put h node hl, ok_bind, at?_put_of_ne d hne, hthere]

/-- The empty path leads nowhere. -/
theorem ne_nil_of_isDirectory (h : d.isDirectory p = true) : p ≠ [] := by
  rintro rfl
  cases h

end Disk

namespace Store

variable {store : Store} {p q : Path} {d : Disk}

/-- The file that a path stands for when a text is saved: the path itself, or the last
    name of it with the extension. -/
inductive Stands (store : Store) (p : Path) : Path → Prop
  | itself : store.Complete p → Stands store p p
  | extended {before name tail} : store.Bare p before name tail →
      Stands store p (before ++ name ++ '.' :: store.extension)

theorem Stands.target (h : store.Stands p q) (hne : p ≠ []) : store.target p = .ok q := by
  cases h with
  | itself hcomplete => exact target_of_complete hne hcomplete
  | extended hbare => exact hbare.target

theorem target_eq_ok_iff (hne : p ≠ []) : store.target p = .ok q ↔ store.Stands p q := by
  refine ⟨fun h => ?_, fun h => h.target hne⟩
  by_cases hbare : ∃ before name tail, store.Bare p before name tail
  · obtain ⟨before, name, tail, hbare⟩ := hbare
    obtain rfl := Except.ok.inj (hbare.target.symm.trans h)
    exact .extended hbare
  · have hcomplete : store.Complete p :=
      complete_of_not_bare fun before name tail hb => hbare ⟨before, name, tail, hb⟩
    obtain rfl := Except.ok.inj ((target_of_complete hne hcomplete).symm.trans h)
    exact .itself hcomplete

/-- A save refuses a directory iff the path stands for one. -/
theorem save_eq_notFile_iff (h : store.target p = .ok q) (t : Text) (r : Path) :
    store.save p t d = .error (.notFile r) ↔ r = q ∧ d.isDirectory q = true := by
  rw [save, h, ok_bind]
  by_cases hdir : d.isDirectory q = true
  · rw [if_pos hdir, Except.error.injEq, Fault.notFile.injEq]
    exact ⟨fun heq => ⟨heq.symm, hdir⟩, fun heq => heq.1.symm⟩
  · rw [if_neg hdir]
    constructor
    · intro hs
      cases hw : d.write q (Utf8.encode t) <;> rw [hw] at hs <;> cases hs
    · intro heq
      exact absurd heq.2 hdir

/-- What comes of saving a text under the path of a directory that stands for `q`. -/
structure DirectorySave (store : Store) (d : Disk) (p q : Path) (t : Text) : Prop where
  refused : d.isDirectory q = true → store.save p t d = .error (.notFile q)
  /-- Otherwise the text is written to another file, and the directory is still
      there. -/
  saved : ∀ r d', store.save p t d = .ok (r, d') →
    r = q ∧ q ≠ p ∧ d'.isDirectory p = true ∧ ∃ place, Disk.Wrote q t place d d'
  /-- It may be that there is no writing there. -/
  failed : d.isDirectory q = false → ∀ fault, store.save p t d = .error fault →
    ∃ cause, fault = .write q cause

theorem directorySave (h : store.target p = .ok q) (hdir : d.isDirectory p = true) (t : Text) :
    DirectorySave store d p q t where
  refused hq := (save_eq_notFile_iff h t q).2 ⟨rfl, hq⟩
  saved := by
    intro r d' hs
    obtain ⟨htarget, place, hw, rfl⟩ := writable_of_save hs
    obtain rfl : q = r := Except.ok.inj (h.symm.trans htarget)
    refine ⟨rfl, ?_, Disk.isDirectory_put hw.noDirectory _ hdir, place, hw.wrote t⟩
    rintro rfl
    rw [Disk.isDirectory_of_writable hw] at hdir
    cases hdir
  failed := by
    intro hq fault hs
    rw [save, h, ok_bind, hq] at hs
    cases hw : d.write q (Utf8.encode t) with
    | ok d' => rw [hw] at hs; cases hs
    | error cause =>
      rw [hw] at hs
      cases hs
      exact ⟨cause, rfl⟩

end Store

/-- **Directories are no files.**  An opening refuses every directory.  A save refuses
    the directory that the path stands for, so it refuses the one that is named if
    nothing is added to its path; a refusal leaves the editor and the disk as they
    were, but for what the status bar says.  If the extension is added and gives no
    directory, the text goes to that file, and the directory that was named stays. -/
theorem directories_refused (store : Store) {d : Disk} {p : Path}
    (hdir : d.isDirectory p = true) :
    Store.open p d = .error (.notFile p) ∧
    (∀ e : Editor, e.Unchanged (.error (Store.Fault.notFile p).message) d
      (e.finishPrompt store .open (some p) d)) ∧
    (store.Complete p → ∀ t, store.save p t d = .error (.notFile p)) ∧
    ∃ q, store.target p = .ok q ∧ store.Stands p q ∧
      (∀ t, store.DirectorySave d p q t) ∧
      (d.isDirectory q = true → ∀ e : Editor,
        e.Unchanged (.error (Store.Fault.notFile q).message) d
          (e.finishPrompt store .save (some p) d)) := by
  have hne := Disk.ne_nil_of_isDirectory hdir
  have hopen : Store.open p d = .error (.notFile p) :=
    Store.open_eq_error_iff.2 (.directory (Disk.isDirectory_eq_true_iff.1 hdir))
  obtain ⟨q, htarget⟩ := store.target_isOk hne
  refine ⟨hopen, fun e => e.unchanged_unopened store hopen, fun hcomplete t => ?_, q, htarget,
    (Store.target_eq_ok_iff hne).1 htarget, Store.directorySave htarget hdir, fun hq e => ?_⟩
  · have hself := Store.target_of_complete hne hcomplete
    exact (Store.save_eq_notFile_iff hself t p).2 ⟨rfl, hdir⟩
  · exact Editor.unchanged_unsaved ((Store.save_eq_notFile_iff htarget _ q).2 ⟨rfl, hq⟩)

/-- A disk with two directories, one of them with a dot in its name. -/
def shelves : Disk :=
  ⟨[], [(["d".toList], .directory), (["e.d".toList], .directory)]⟩

/-- A directory whose name has an extension is refused, however its path is written. -/
theorem dottedDirectory_refused :
    shelves.isDirectory "./e.d//".toList = true ∧
    (⟨"txt".toList⟩ : Store).Complete "./e.d//".toList ∧
    Store.open "./e.d//".toList shelves = .error (.notFile "./e.d//".toList) ∧
    Store.save ⟨"txt".toList⟩ "./e.d//".toList ['x'] shelves =
      .error (.notFile "./e.d//".toList) := by
  have hdir : shelves.isDirectory "./e.d//".toList = true := by decide
  have hcomplete : (⟨"txt".toList⟩ : Store).Complete "./e.d//".toList :=
    Or.inr (Or.inl (by decide))
  obtain ⟨hopen, -, hsave, -⟩ := directories_refused ⟨"txt".toList⟩ hdir
  exact ⟨hdir, hcomplete, hopen, hsave hcomplete ['x']⟩

/-- One whose name has none is not refused: the text goes to a new file beside it, even
    if a slash says that a directory is meant. -/
theorem bareDirectory_not_refused :
    shelves.isDirectory "d".toList = true ∧ shelves.isDirectory "d/".toList = true ∧
    ∀ p ∈ ["d".toList, "d/".toList],
      Store.save ⟨"txt".toList⟩ p ['x'] shelves =
        .ok ("d.txt".toList, shelves.put ["d.txt".toList] (.file [0x78])) ∧
      shelves.read "d.txt".toList = .error .notFound := by
  decide

end Runpad
