/-
  What opening and saving leave of the editor.

  * `Unchanged` says that the editor and the disk are as they were, but for what the
    status bar says: `unchanged_cancelled`, `unchanged_unsaved` and
    `unchanged_unopened`;
  * `Loaded` says that a text was opened; `loaded_opened`;
  * `failed_files_unchanged`: so a file command that fails or is cancelled leaves
    everything, and for opening, what it fails for is what is found under the path.
-/
import Mathlib
import Runpad.Proofs.Disk.Read
import Runpad.Proofs.Editor.Response

namespace Runpad.Editor

variable {store : Store} {e : Editor} {d : Disk} {path : Path} {t : Text}

/-- After the command the status bar says what is given, and all the rest of the
    editor is as it was, and so is the disk. -/
structure Unchanged (said : Status) (e : Editor) (d : Disk) (after : Editor × Disk) : Prop where
  status : after.1.status = said
  rest : { after.1 with status := e.status } = e
  disk : after.2 = d

/-- After the command the input is the text that was opened under the path, with the
    cursor at its start and the focus on it. -/
structure Loaded (path : Path) (t : Text) (e : Editor) (d : Disk) (after : Editor × Disk) :
    Prop where
  status : after.1.status = .info ("Opened ".toList ++ path)
  text : after.1.input.text = t
  row : after.1.input.row = 0
  column : after.1.input.column = 0
  path : after.1.path = some path
  modified : after.1.modified = false
  focus : after.1.focus = .input
  /-- The output, the prompt, the run and the page of help are as they were. -/
  rest : { after.1 with
    input := e.input, path := e.path, modified := e.modified, focus := e.focus,
    status := e.status } = e
  disk : after.2 = d

theorem unchanged_cancelled (store : Store) (e : Editor) (d : Disk) (purpose : Purpose) :
    Unchanged (.info purpose.cancelled) e d (e.finishPrompt store purpose none d) := by
  cases purpose <;> exact ⟨rfl, rfl, rfl⟩

theorem unchanged_unsaved {fault : Store.Fault}
    (h : store.save path e.input.text d = .error fault) :
    Unchanged (.error fault.message) e d (e.finishPrompt store .save (some path) d) := by
  simp only [finishPrompt, saveFile, h]
  exact ⟨rfl, rfl, rfl⟩

theorem unchanged_unopened (store : Store) (e : Editor) {fault : Store.Fault}
    (h : Store.open path d = .error fault) :
    Unchanged (.error fault.message) e d (e.finishPrompt store .open (some path) d) := by
  simp only [finishPrompt, openFile, h]
  exact ⟨rfl, rfl, rfl⟩

theorem loaded_opened (store : Store) (e : Editor) (h : Store.open path d = .ok t) :
    Loaded path t e d (e.finishPrompt store .open (some path) d) := by
  simp only [finishPrompt, openFile, h]
  exact ⟨rfl, TextArea.text_ofText t, rfl, rfl, rfl, rfl, rfl, rfl, rfl⟩

/-- **A file command that fails leaves the editor and the disk as they were**, but for
    what the status bar says, and so does one that is cancelled.  An opening fails
    exactly for what is found under the path: nothing, a directory, no file, or a file
    that is no text.  Otherwise the text of the file becomes the input. -/
theorem failed_files_unchanged (store : Store) (e : Editor) (d : Disk) :
    (∀ purpose, Unchanged (.info purpose.cancelled) e d (e.finishPrompt store purpose none d)) ∧
    (∀ path fault, store.save path e.input.text d = .error fault →
      Unchanged (.error fault.message) e d (e.finishPrompt store .save (some path) d)) ∧
    ∀ path,
      (∀ fault, (Store.open path d = .error fault ↔ Store.Unopenable path d fault) ∧
        (Store.Unopenable path d fault →
          Unchanged (.error fault.message) e d (e.finishPrompt store .open (some path) d))) ∧
      ∀ t, (Store.open path d = .ok t ↔ d.read path = .ok (Utf8.encode t)) ∧
        (d.read path = .ok (Utf8.encode t) →
          Loaded path t e d (e.finishPrompt store .open (some path) d)) := by
  refine ⟨unchanged_cancelled store e d, fun path fault => unchanged_unsaved, fun path => ?_⟩
  refine ⟨fun fault => ⟨Store.open_eq_error_iff, fun h => ?_⟩,
    fun t => ⟨Store.open_eq_ok_iff, fun h => ?_⟩⟩
  · exact unchanged_unopened store e h.opening
  · exact loaded_opened store e (Store.open_eq_ok_iff.2 h)

/-- An editor with a text that is in no file. -/
def unsaved : Editor :=
  { input := .ofText ['k'], modified := true }

/-- A disk with a directory, and a file whose first byte alone would be a text. -/
def halfText : Disk :=
  ⟨[], [([['d']], .directory), ([['x']], .file [0x61, 0xFF])]⟩

/-- Neither half a text nor a directory is opened, and nothing is saved where there is
    no directory. -/
theorem halfText_unchanged :
    Store.Unopenable ['x'] halfText (.read ['x'] .notText) ∧
    Unchanged (.error (Store.Fault.read ['x'] .notText).message) unsaved halfText
      (unsaved.finishPrompt ⟨['t']⟩ .open (some ['x']) halfText) ∧
    Unchanged (.error (Store.Fault.notFile ['d', '/']).message) unsaved halfText
      (unsaved.finishPrompt ⟨['t']⟩ .open (some ['d', '/']) halfText) ∧
    Unchanged (.error (Store.Fault.write "no/x.t".toList .notFound).message) unsaved halfText
      (unsaved.finishPrompt ⟨['t']⟩ .save (some "no/x".toList) halfText) := by
  obtain ⟨-, hsave, hopen⟩ := failed_files_unchanged ⟨['t']⟩ unsaved halfText
  have hread : halfText.read ['x'] = .ok [0x61, 0xFF] := by decide
  have hhalf : Store.Unopenable ['x'] halfText (.read ['x'] .notText) :=
    .noText hread (Utf8.decode?_eq_none_iff.1 (by decide))
  have hdirectory : Store.Unopenable ['d', '/'] halfText (.notFile ['d', '/']) :=
    .directory (by decide)
  exact ⟨hhalf, ((hopen ['x']).1 _).2 hhalf, ((hopen ['d', '/']).1 _).2 hdirectory,
    hsave "no/x".toList (.write "no/x.t".toList .notFound) (by decide)⟩

end Runpad.Editor
