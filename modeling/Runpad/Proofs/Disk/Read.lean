/-
  What reading sees of a disk.

  * `read_eq_ok_iff`: what is read is the file that the path leads to;
  * `open_eq_ok_iff`: a file is opened as a text iff its bytes are how the text is
    written; `Store.Unopenable` lists all else that can be found under a path, and
    `open_eq_error_iff`: this is what an opening fails for.
-/
import Mathlib
import Runpad.Proofs.Disk.Write
import Runpad.Proofs.Text.Utf8

namespace Runpad

namespace Disk

variable {d : Disk} {p : Path} {content : Bytes}

theorem read_eq_ok_iff : d.read p = .ok content ↔ d.node? p = .ok (.file content) := by
  constructor
  · intro h
    obtain ⟨node, hn, hr⟩ := bind_eq_ok_iff.1 h
    cases node with
    | directory => cases hr
    | file stored =>
      cases hr
      exact hn
  · intro h
    exact bind_eq_ok_iff.2 ⟨_, h, rfl⟩

/-- The empty path leads nowhere. -/
theorem ne_nil_of_read (h : d.read p = .ok content) : p ≠ [] := by
  rintro rfl
  cases h

theorem isDirectory_of_read (h : d.read p = .ok content) : d.isDirectory p = false := by
  have hn := read_eq_ok_iff.1 h
  unfold isDirectory
  rw [hn]
  rfl

theorem isDirectory_eq_true_iff : d.isDirectory p = true ↔ d.node? p = .ok .directory := by
  unfold isDirectory
  rw [decide_eq_true_iff]
  cases d.node? p <;> simp [Except.toOption]

theorem readText_eq_ok_iff {t : Text} :
    d.readText p = .ok t ↔ d.read p = .ok (Utf8.encode t) := by
  constructor
  · intro h
    obtain ⟨stored, hr, hd⟩ := bind_eq_ok_iff.1 h
    cases hx : Utf8.decode stored with
    | error fault =>
      simp only [Utf8.decode?, hx, Except.toOption] at hd
      cases hd
    | ok s =>
      simp only [Utf8.decode?, hx, Except.toOption] at hd
      cases hd
      rw [hr, Utf8.decode_eq_ok_iff.1 hx]
  · intro h
    refine bind_eq_ok_iff.2 ⟨_, h, ?_⟩
    simp [Utf8.decode?, Except.toOption]

end Disk

theorem Utf8.decode?_eq_none_iff {bytes : Bytes} :
    Utf8.decode? bytes = none ↔ ∀ t, bytes ≠ Utf8.encode t := by
  rw [Utf8.decode?, Option.eq_none_iff_forall_ne_some]
  refine forall_congr' fun t => not_congr ?_
  rw [eq_comm (a := bytes), ← Utf8.decode_eq_ok_iff]
  cases Utf8.decode bytes <;> simp [Except.toOption]

/-- **What is opened is what the file holds.** -/
theorem Store.open_eq_ok_iff {p : Path} {d : Disk} {t : Text} :
    Store.open p d = .ok t ↔ d.read p = .ok (Utf8.encode t) := by
  rw [← Disk.readText_eq_ok_iff]
  constructor
  · intro h
    unfold Store.open at h
    split_ifs at h
    cases hx : d.readText p with
    | ok s =>
      rw [hx] at h
      cases h
      rfl
    | error fault =>
      rw [hx] at h
      cases h
  · intro h
    have hread := Disk.readText_eq_ok_iff.1 h
    unfold Store.open
    rw [if_neg (Disk.ne_nil_of_read hread), Disk.isDirectory_of_read hread, h]
    rfl

namespace Store

/-- What is found under a path is no text, for the reason given. -/
inductive Unopenable (p : Path) (d : Disk) : Fault → Prop
  | empty : p = [] → Unopenable p d .emptyPath
  | directory : d.node? p = .ok .directory → Unopenable p d (.notFile p)
  /-- The path leads to no file at all. -/
  | unread {cause : Disk.Fault} : p ≠ [] → d.node? p ≠ .ok .directory →
      d.read p = .error cause → Unopenable p d (.read p cause)
  /-- The bytes of the file are not how any text is written. -/
  | noText {content : Bytes} : d.read p = .ok content → (∀ t, content ≠ Utf8.encode t) →
      Unopenable p d (.read p .notText)

variable {p : Path} {d : Disk} {fault : Fault}

theorem Unopenable.opening (h : Unopenable p d fault) : Store.open p d = .error fault := by
  cases h with
  | empty hp => rw [Store.open, if_pos hp]
  | directory hdir =>
    have hne : p ≠ [] := by
      rintro rfl
      cases hdir
    rw [Store.open, if_neg hne, Disk.isDirectory_eq_true_iff.2 hdir]
    rfl
  | unread hne hdir hread =>
    have hno : ¬ d.isDirectory p = true := fun h => hdir (Disk.isDirectory_eq_true_iff.1 h)
    rw [Store.open, if_neg hne, if_neg hno, Disk.readText, hread]
    rfl
  | noText hread htext =>
    rw [Store.open, if_neg (Disk.ne_nil_of_read hread), Disk.isDirectory_of_read hread,
      Disk.readText, hread, ok_bind, Utf8.decode?_eq_none_iff.2 htext]
    rfl

/-- A path leads to a text, or there is a reason why it does not. -/
theorem open_cases (p : Path) (d : Disk) :
    (∃ t, Store.open p d = .ok t) ∨ ∃ fault, Unopenable p d fault := by
  by_cases hne : p = []
  · exact Or.inr ⟨_, .empty hne⟩
  by_cases hdir : d.node? p = .ok .directory
  · exact Or.inr ⟨_, .directory hdir⟩
  cases hread : d.read p with
  | error cause => exact Or.inr ⟨_, .unread hne hdir hread⟩
  | ok content =>
    by_cases htext : ∃ t, content = Utf8.encode t
    · obtain ⟨t, rfl⟩ := htext
      exact Or.inl ⟨t, open_eq_ok_iff.2 hread⟩
    · exact Or.inr ⟨_, .noText hread (not_exists.1 htext)⟩

/-- **What an opening fails for** is what is found under the path. -/
theorem open_eq_error_iff : Store.open p d = .error fault ↔ Unopenable p d fault := by
  refine ⟨fun h => ?_, Unopenable.opening⟩
  rcases open_cases p d with ⟨t, ht⟩ | ⟨fault', hfault⟩
  · rw [h] at ht
    cases ht
  · have hsame := hfault.opening
    rw [h] at hsame
    cases hsame
    exact hfault

end Store

end Runpad
