/-
  A file that was opened and not edited is saved as it was.

  * `OpensFrom` is the event that confirms a prompt for opening, and `Opened` a
    session that has just opened a file with the given bytes;
  * `Opened.input`: its input is the text of the file, with every line ending as it
    was;
  * `step_saved`: a save that succeeds leaves the input in the file;
  * `unedited_saved`: between the two, nothing but an edit or another file changes
    the bytes.
-/
import Mathlib
import Runpad.Proofs.Disk.Read
import Runpad.Proofs.Editor.Saving
import Runpad.Proofs.Editor.Texts
import Runpad.Proofs.TextArea.Operation

namespace Runpad

namespace Editor

/-- The event confirms a prompt for opening, whose path without the blanks around
    it is `path`. -/
inductive OpensFrom (e : Editor) : Event → Path → Prop
  | confirm {m : Modifiers} {p : Prompt} {path : Path} : e.prompt = some p →
      p.purpose = .open → Text.trim p.path = path → path ≠ [] → OpensFrom e (.key .enter m) path

theorem OpensFrom.opens {e : Editor} {d : Disk} {event : Event} {path : Path} {t : Text}
    (h : e.OpensFrom event path) (hopen : Store.open path d = .ok t) : e.Opens d event t := by
  cases h with
  | confirm hp hu htrim hne => exact .confirm hp hu htrim hne hopen

end Editor

namespace Session

open Editor

variable {σ : Type} {remote : Remote σ} {store : Store} {s s' : Session σ}

/-! ## Opening -/

/-- The session is at the first draw after a file with the given bytes was opened,
    by the event before or when the session started. -/
inductive Opened (remote : Remote σ) (store : Store) (content : Bytes) : Session σ → Prop
  | started {r : σ} {d : Disk} {path : Path} {width height : Nat} : d.read path = .ok content →
      Opened remote store content (start remote r d (some path) width height)
  | confirmed {s s' : Session σ} {now : Nat} {event : Event} {path : Path} :
      s.editor.OpensFrom event path → s.disk.read path = .ok content →
      (s.step remote store now event).next = some s' → Opened remote store content s'

/-- The input is the text of the file. -/
theorem Opened.input {content : Bytes} {t : Text} (h : Opened remote store content s)
    (htext : Utf8.decode content = .ok t) : s.editor.input.text = t := by
  have hopen : ∀ {d : Disk} {path : Path}, d.read path = .ok content →
      Store.open path d = .ok t := by
    intro d path hread
    rw [Store.open_eq_ok_iff, hread, Utf8.decode_eq_ok_iff.1 htext]
  cases h with
  | started hread =>
    simp only [Session.start, input_text_draw, openFile, hopen hread]
    exact TextArea.text_ofText t
  | confirmed hfrom hread hstep =>
    exact (textsAfter_step hstep).input_opened t (hfrom.opens (hopen hread))

/-! ## Saving -/

/-- A save that succeeds is reported, and the file holds the input. -/
theorem step_saved (remote : Remote σ) {event : Event} {path target : Path} {d : Disk}
    (h : s.editor.SavesTo event path)
    (hsave : store.save path s.editor.input.text s.disk = .ok (target, d)) (now : Nat) :
    ∃ s', s.step remote store now event = { next := some s' } ∧
      s'.editor.status = .info ("Saved ".toList ++ target) ∧ s'.disk = d ∧
      s'.disk.read target = .ok (Utf8.encode s.editor.input.text) := by
  have hh := h.handle store now s.disk
  simp only [saveFile, hsave] at hh
  obtain ⟨-, place, hw, rfl⟩ := Store.writable_of_save hsave
  exact ⟨_, step_proceed hh, rfl, rfl, Disk.read_put hw _⟩

/-- **A file that was opened and not edited is saved as it was.**  Whatever happens
    after it was opened, as long as the input is not edited and no other file is
    opened, a save that succeeds leaves exactly the bytes of the file.  For the
    lines of a text area say as much as its text: each can be had from the other. -/
theorem unedited_saved (remote : Remote σ) (store : Store) :
    (∀ content t, Utf8.decode content = .ok t → ∀ s, Opened remote store content s →
      ∀ moments s', s.play remote store moments = some s' →
        (∀ v ∈ s.visits remote store moments,
          ¬ v.1.editor.EditsInput v.2.event ∧ ∀ u, ¬ v.1.editor.Opens v.1.disk v.2.event u) →
        ∀ (saving : Moment) path target d,
          s'.editor.SavesTo saving.event path →
          store.save path s'.editor.input.text (saving.others s'.disk) = .ok (target, d) →
          ∃ s'', s'.stepAt remote store saving = { next := some s'' } ∧
            s''.editor.status = .info ("Saved ".toList ++ target) ∧ s''.disk = d ∧
            s''.disk.read target = .ok content) ∧
    (∀ ops, (TextArea.ofText (TextArea.built ops).text).lines = (TextArea.built ops).lines) ∧
    ∀ ops ops', (TextArea.built ops).text = (TextArea.built ops').text ↔
      (TextArea.built ops).lines = (TextArea.built ops').lines := by
  refine ⟨?_, fun ops => ?_, fun ops ops' => ?_⟩
  · intro content t htext s hopened moments s' hplay hno saving path target d hconfirm hsave
    have hbytes : Utf8.encode s'.editor.input.text = content := by
      rw [input_play hplay hno, hopened.input htext]
      exact Utf8.decode_eq_ok_iff.1 htext
    have hfound : (s'.foundAt saving).editor.SavesTo saving.event path := hconfirm
    obtain ⟨s'', hstep, hstatus, hdisk, hfile⟩ := step_saved remote hfound hsave saving.now
    have hinput : (s'.foundAt saving).editor.input.text = s'.editor.input.text := rfl
    rw [hinput, hbytes] at hfile
    exact ⟨s'', hstep, hstatus, hdisk, hfile⟩
  · rw [TextArea.lines_ofText]
    exact (TextArea.tidy_built ops).lines_text
  · exact (TextArea.tidy_built ops).text_eq_iff (TextArea.tidy_built ops')

/-! ## A file that comes back -/

/-- A disk with a file of several line endings, none of them at its end. -/
def mixedEndings : Disk :=
  ⟨[], [([['p']], .file [0x61, 0x0D, 0x0A, 0x0D, 0xC3, 0xA9, 0x0A, 0x62])]⟩

/-- The other region, a page there, a failed run, the page of help and back, a prompt that is
    cancelled, a small screen, and then the order to save. -/
def lookedAround : List Moment :=
  [⟨0, .key .backTab {}, id⟩, ⟨1, .key .pageDown {}, id⟩, ⟨2, .key (.function 5) {}, id⟩,
    ⟨3, .key (.function 1) {}, id⟩, ⟨4, .key .escape {}, id⟩,
    ⟨5, .key (.char 'o') { control := true }, id⟩, ⟨6, .key .escape {}, id⟩, ⟨7, .resize 3 1, id⟩,
    ⟨8, .mouse .scrollDown ⟨1, 1⟩, id⟩, saveOrder]

/-- None of them edits or opens anything, wherever it happens. -/
theorem quiet_lookedAround : ∀ m ∈ lookedAround, ∀ (e : Editor) (d : Disk),
    ¬ e.EditsInput m.event ∧ ∀ u, ¬ e.Opens d m.event u := by
  simp only [lookedAround, saveOrder, List.forall_mem_cons]
  refine ⟨?_, ?_, ?_, ?_, ?_, ?_, ?_, ?_, ?_, ?_, by simp⟩ <;>
  · refine fun e d => ⟨?_, fun u h => nomatch h⟩
    rintro ⟨-, -, hedits, -⟩ <;> cases hedits <;> contradiction

theorem mixedEndings_saved :
    ∃ s s'', (start absent () mixedEndings (some ['p']) 60 12).play absent ⟨['t']⟩ lookedAround =
        some s ∧
      s.stepAt absent ⟨['t']⟩ ⟨9, .key .enter {}, id⟩ = { next := some s'' } ∧
      s''.disk.read ['p', '.', 't'] =
        .ok [0x61, 0x0D, 0x0A, 0x0D, 0xC3, 0xA9, 0x0A, 0x62] := by
  have hlast : ((start absent () mixedEndings (some ['p']) 60 12).play absent ⟨['t']⟩
      lookedAround).map (fun s => (s.editor.prompt,
        (Store.save ⟨['t']⟩ ['p'] s.editor.input.text s.disk).toOption.map Prod.fst)) =
      some (some ⟨.save, ['p'], 1⟩, some ['p', '.', 't']) := by
    decide
  obtain ⟨s, hplay, hs⟩ := Option.map_eq_some_iff.1 hlast
  obtain ⟨hprompt, hsave⟩ := Prod.mk.inj hs
  cases hx : Store.save ⟨['t']⟩ ['p'] s.editor.input.text s.disk with
  | error fault =>
    rw [hx] at hsave
    cases hsave
  | ok saved =>
    rw [hx] at hsave
    have htarget : saved = (['p', '.', 't'], saved.2) := by
      rw [← Option.some.inj hsave]
    rw [htarget] at hx
    have htext : Utf8.decode [0x61, 0x0D, 0x0A, 0x0D, 0xC3, 0xA9, 0x0A, 0x62] =
        .ok ['a', '\r', '\n', '\r', 'é', '\n', 'b'] := by decide
    have hopened : Opened absent ⟨['t']⟩ [0x61, 0x0D, 0x0A, 0x0D, 0xC3, 0xA9, 0x0A, 0x62]
        (start absent () mixedEndings (some ['p']) 60 12) := .started (by decide)
    have hconfirm : s.editor.SavesTo (.key .enter {}) ['p'] :=
      .confirm hprompt rfl (by decide) (by simp)
    obtain ⟨s'', hstep, -, -, hfile⟩ := (unedited_saved absent ⟨['t']⟩).1 _ _ htext _ hopened
      lookedAround s hplay (fun v hv => quiet_lookedAround v.2 (mem_of_mem_visits hv) _ _)
      ⟨9, .key .enter {}, id⟩ ['p'] _ _ hconfirm hx
    exact ⟨s, s'', hplay, hstep, hfile⟩

end Session

end Runpad
