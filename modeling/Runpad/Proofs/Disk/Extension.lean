/-
  The name under which a text is saved.

  * `Store.Bare` are the paths that an extension is added to: their last name has no
    dot but perhaps at its start; `Bare.target` adds it right behind that name, and
    `complete_of_not_bare`: to no other path;
  * `extension_rule`: so every path but the empty one stands for a file, in the same
    directory.

  All of it is about slashes and dots only, so it is just as true of a path that is no
  text, with its bytes for characters.
-/
import Mathlib
import Runpad.Proofs.Disk.Target
import Runpad.Proofs.Disk.Write

namespace Runpad.Store

variable {store : Store} {p before : Path} {name tail : Text}

/-! ## Paths without an extension -/

/-- The last name of the path has no dot but perhaps at its start, and there is an
    extension to add to it. -/
structure Bare (store : Store) (p before : Path) (name tail : Text) : Prop
    extends Path.EndsIn p before name tail where
  notUp : name ≠ Path.up
  noDot : '.' ∉ name.drop 1
  extension : store.extension ≠ []

/-- The extension goes right behind the name, and what trails is dropped. -/
theorem Bare.target (h : store.Bare p before name tail) :
    store.target p = .ok (before ++ name ++ '.' :: store.extension) := by
  have hno : Path.hasExtension p = false := by
    simpa [Path.hasExtension, h.toEndsIn.fileName? h.notUp, Path.hasLaterDot] using h.noDot
  rw [← h.toEndsIn.withExtension h.notUp, Store.target, if_neg h.ne_nil,
    if_neg (by simp [hno, h.extension])]

/-- To all other paths nothing is added. -/
theorem complete_of_not_bare (h : ∀ before name tail, ¬ store.Bare p before name tail) :
    store.Complete p := by
  by_contra hcomplete
  obtain ⟨hextension, hno, name, hname⟩ := not_complete_iff.1 hcomplete
  obtain ⟨before, tail, hends⟩ := Path.exists_endsIn hname
  refine h before name tail ⟨hends, (Path.fileName?_eq_some_iff.1 hname).2, ?_, hextension⟩
  simpa [Path.hasExtension, hname, Path.hasLaterDot] using hno

theorem target_eq_error_iff {fault : Fault} :
    store.target p = .error fault ↔ p = [] ∧ fault = .emptyPath := by
  constructor
  · intro h
    by_cases hp : p = []
    · subst hp
      exact ⟨rfl, (Except.error.inj h).symm⟩
    · obtain ⟨target, htarget⟩ := store.target_isOk hp
      rw [htarget] at h
      cases h
  · rintro ⟨rfl, rfl⟩
    rfl

/-- **The rule of the default extension.**  Only the empty path stands for no file.
    If the last name of a path has no extension, the file is in the same directory,
    and its name is that name with the extension; any other path stands for itself. -/
theorem extension_rule (store : Store) (hslash : '/' ∉ store.extension) (p : Path) :
    (∀ fault, store.target p = .error fault ↔ p = [] ∧ fault = .emptyPath) ∧
    (∀ before name tail, store.Bare p before name tail →
      ∃ q, store.target p = .ok q ∧
        Path.EndsIn q before (name ++ '.' :: store.extension) [] ∧
        Path.fileName? q = some (name ++ '.' :: store.extension) ∧
        Path.parent? q = Path.parent? p) ∧
    (p ≠ [] → (∀ before name tail, ¬ store.Bare p before name tail) →
      store.target p = .ok p) := by
  refine ⟨fun fault => target_eq_error_iff, fun before name tail h => ?_, fun hne h => ?_⟩
  · have hends := h.toEndsIn.extended hslash
    refine ⟨_, h.target, hends, ?_, h.toEndsIn.parent?_eq hends⟩
    rw [← h.toEndsIn.withExtension h.notUp]
    exact Path.fileName?_withExtension (h.toEndsIn.fileName? h.notUp) hslash
  · exact target_of_complete hne (complete_of_not_bare h)

/-- A path without a last name stands for itself. -/
example : ∀ p ∈ ["/", ".", "..", "a/../", ".//."], target ⟨['t']⟩ p.toList = .ok p.toList := by
  decide

/-- A name that starts with a dot has no extension, what trails is dropped, and a dot
    at the end of a name is an extension. -/
theorem hiddenName_extended :
    '/' ∉ (⟨['t']⟩ : Store).extension ∧
    Bare ⟨['t']⟩ "d/.p//./".toList "d/".toList ".p".toList "//./".toList ∧
    target ⟨['t']⟩ "d/.p//./".toList = .ok "d/.p.t".toList ∧
    Path.parent? "d/.p.t".toList = Path.parent? "d/.p//./".toList ∧
    target ⟨['t']⟩ "d/p.//".toList = .ok "d/p.//".toList := by
  have hslash : '/' ∉ (⟨['t']⟩ : Store).extension := by decide
  have hbare : Bare ⟨['t']⟩ "d/.p//./".toList "d/".toList ".p".toList "//./".toList :=
    ⟨⟨by decide, by decide, by decide, by decide, .slash (.slashDot (.slash .nil))⟩,
      by decide, by decide, by decide⟩
  obtain ⟨-, hextended, -⟩ := extension_rule ⟨['t']⟩ hslash "d/.p//./".toList
  obtain ⟨q, htarget, hends, -, hparent⟩ := hextended _ _ _ hbare
  obtain rfl : q = "d/.p.t".toList := hends.path
  obtain ⟨-, -, hkept⟩ := extension_rule ⟨['t']⟩ hslash "d/p.//".toList
  refine ⟨hslash, hbare, htarget, hparent, hkept (by decide) fun before name tail h => ?_⟩
  have hname : some "p.".toList = some name :=
    .trans (by decide) (h.toEndsIn.fileName? h.notUp)
  cases hname
  exact absurd h.noDot (by decide)

end Runpad.Store
