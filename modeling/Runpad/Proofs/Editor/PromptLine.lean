/-
  The path of a prompt as bytes.

  * `PromptLine` has the path as its bytes; here every cut of them and every
    subtraction is tested;
  * `Prompt.Edit` is one thing that can be done to the path, `Edit.onLine` does it
    to the bytes;
  * `onLine_line`: while the cursor is within the path, every edit goes through,
    and leaves it within the path (`Within.apply`); `sound_onLine`: the same for
    bytes.
-/
import Mathlib
import Runpad.Editor.Event
import Runpad.Proofs.TextArea.Grid

namespace Runpad

/-- The bytes of a path, and the number of characters before the cursor. -/
structure PromptLine where
  path : Bytes
  cursor : Nat
  deriving DecidableEq, Repr

namespace PromptLine

def insert (c : Char) (l : PromptLine) : Option PromptLine := do
  let path ← Utf8.insertAt c (Utf8.byteIndex l.path l.cursor) l.path
  some { path, cursor := l.cursor + 1 }

/-- Line breaks are left out. -/
def paste (t : Text) (l : PromptLine) : Option PromptLine :=
  (t.filter fun c => c ≠ '\r' && c ≠ '\n').foldlM (fun l c => l.insert c) l

def backspace (l : PromptLine) : Option PromptLine :=
  if 0 < l.cursor then do
    let cursor ← minus? l.cursor 1
    let path ← Utf8.removeAt (Utf8.byteIndex l.path cursor) l.path
    some { path, cursor }
  else some l

/-- The path is a text, and the cursor is on one of its characters or at its
    end. -/
structure Sound (l : PromptLine) : Prop where
  path : ∃ t, Utf8.decode l.path = .ok t
  cursor : l.cursor ≤ Utf8.count l.path

end PromptLine

namespace Prompt

/-- One thing that can be done to the path of a prompt. -/
inductive Edit where
  | insert (c : Char)
  | paste (t : Text)
  | backspace
  | moveLeft
  | moveRight
  | toStart
  | toEnd
  deriving DecidableEq, Repr

/-- Does it. -/
def Edit.apply (p : Prompt) : Edit → Prompt
  | .insert c => p.insert c
  | .paste t => p.paste t
  | .backspace => p.backspace
  | .moveLeft => p.moveLeft
  | .moveRight => p.moveRight
  | .toStart => p.toStart
  | .toEnd => p.toEnd

/-- Does it on bytes. -/
def Edit.onLine (l : PromptLine) : Edit → Option PromptLine
  | .insert c => l.insert c
  | .paste t => l.paste t
  | .backspace => l.backspace
  | .moveLeft => some { l with cursor := l.cursor - 1 }
  | .moveRight => some { l with cursor := min (l.cursor + 1) (Utf8.count l.path) }
  | .toStart => some { l with cursor := 0 }
  | .toEnd => some { l with cursor := Utf8.count l.path }

/-- The edit that a key stands for. -/
def edit? (m : Modifiers) : Key → Option Edit
  | .backspace => some .backspace
  | .left => some .moveLeft
  | .right => some .moveRight
  | .home => some .toStart
  | .endKey => some .toEnd
  | .char c => if m.control then none else some (.insert c)
  | _ => none

/-- The bytes of a prompt. -/
def line (p : Prompt) : PromptLine :=
  ⟨Utf8.encode p.path, p.cursor⟩

variable {p : Prompt}

theorem sound_line_iff : p.line.Sound ↔ p.Within := by
  constructor
  · rintro ⟨-, hcursor⟩
    rwa [line, Utf8.count_encode] at hcursor
  · intro h
    exact ⟨⟨p.path, Utf8.decode_eq_ok_iff.2 rfl⟩, by rwa [line, Utf8.count_encode]⟩

/-- Sound bytes are those of a prompt. -/
theorem exists_line {l : PromptLine} (h : l.Sound) : ∃ p : Prompt, p.Within ∧ p.line = l := by
  obtain ⟨t, ht⟩ := h.path
  have hline : (⟨.open, t, l.cursor⟩ : Prompt).line = l := by
    rw [line, Utf8.decode_eq_ok_iff.1 ht]
  exact ⟨⟨.open, t, l.cursor⟩, sound_line_iff.1 (by rwa [hline]), hline⟩

/-- Cuts the path at the cursor. -/
theorem Within.cut (h : p.Within) :
    ∃ s t, p.path = s ++ t ∧ p.cursor = s.length :=
  ⟨p.path.take p.cursor, p.path.drop p.cursor, (List.take_append_drop _ _).symm,
    (List.length_take_of_le h).symm⟩

theorem insert_line (h : p.Within) (c : Char) : p.line.insert c = some (p.insert c).line := by
  obtain ⟨s, t, hpath, hcursor⟩ := h.cut
  have hinsert : Utf8.insertAt c (Utf8.byteIndex p.line.path p.line.cursor) p.line.path =
      some (Utf8.encode (s ++ c :: t)) := by
    simp only [line, hpath, hcursor]
    rw [Utf8.byteIndex_encode, Utf8.insertAt_encode]
  simp only [PromptLine.insert, hinsert, Option.bind_eq_bind, Option.bind_some]
  simp [insert, line, hpath, hcursor]

theorem Within.foldl_insert (h : p.Within) (t : Text) :
    (t.foldl (fun p c => p.insert c) p).Within := by
  induction t generalizing p with
  | nil => exact h
  | cons c t ih => exact ih (h.insert c)

theorem foldlM_insert_line (h : p.Within) (t : Text) :
    t.foldlM (fun l c => PromptLine.insert c l) p.line =
      some (t.foldl (fun p c => p.insert c) p).line := by
  induction t generalizing p with
  | nil => rfl
  | cons c t ih =>
    rw [List.foldlM_cons, insert_line h, Option.bind_eq_bind, Option.bind_some, ih (h.insert c)]
    rfl

theorem backspace_line (h : p.Within) : p.line.backspace = some p.backspace.line := by
  unfold PromptLine.backspace backspace
  by_cases hzero : p.cursor = 0
  · rw [if_neg (by simp [line, hzero]), if_pos hzero]
  · have hpos : 0 < p.line.cursor := Nat.pos_of_ne_zero hzero
    obtain ⟨s, t, hpath, hcursor⟩ := h.cut
    -- The character to take out is the last one before the cursor.
    obtain ⟨s, c, rfl⟩ : ∃ s' c, s = s' ++ [c] := by
      refine ⟨s.dropLast, s.getLast ?_, (List.dropLast_concat_getLast _).symm⟩
      rintro rfl
      exact hzero hcursor
    rw [List.append_assoc, List.singleton_append] at hpath
    rw [List.length_append, List.length_singleton] at hcursor
    have hminus : minus? p.line.cursor 1 = some s.length := minus?_one hcursor
    have hremove : Utf8.removeAt (Utf8.byteIndex p.line.path s.length) p.line.path =
        some (Utf8.encode (s ++ t)) := by
      rw [line, hpath, Utf8.byteIndex_encode, Utf8.removeAt_encode]
    rw [if_pos hpos, if_neg hzero]
    simp only [hminus, hremove, Option.bind_eq_bind, Option.bind_some]
    have hrest : (s ++ c :: t).drop (s.length + 1) = t := by
      rw [← List.drop_drop, List.drop_left, List.drop_one, List.tail_cons]
    rw [line, hpath, hcursor, hrest, Nat.add_sub_cancel, List.take_left]

/-- **Every edit goes through**, and does what it does to the prompt. -/
theorem onLine_line (h : p.Within) (edit : Edit) :
    edit.onLine p.line = some (edit.apply p).line := by
  cases edit with
  | insert c => exact insert_line h c
  | paste t => exact foldlM_insert_line h _
  | backspace => exact backspace_line h
  | moveLeft | toStart => rfl
  | moveRight | toEnd => simp only [Edit.onLine, line, Utf8.count_encode]; rfl

/-- It leaves the cursor within the path. -/
theorem Within.apply (h : p.Within) (edit : Edit) : (edit.apply p).Within := by
  cases edit with
  | insert c => exact h.insert c
  | paste t => exact h.foldl_insert _
  | backspace => exact h.backspace
  | moveLeft => exact (Nat.sub_le _ _).trans h
  | moveRight => exact Nat.min_le_right _ _
  | toStart => exact Nat.zero_le _
  | toEnd => exact Nat.le_refl _

/-- **From sound bytes every edit leads to sound ones.** -/
theorem sound_onLine {l : PromptLine} (h : l.Sound) (edit : Edit) :
    ∃ l', edit.onLine l = some l' ∧ l'.Sound := by
  obtain ⟨p, hp, rfl⟩ := exists_line h
  exact ⟨_, onLine_line hp edit, sound_line_iff.2 (hp.apply edit)⟩

/-- A key of a prompt does the edit that it stands for. -/
theorem promptKey_eq (key : Key) (m : Modifiers) (p : Prompt) :
    Editor.promptKey key m p = ((edit? m key).map (Edit.apply p)).getD p := by
  cases key with
  | char c =>
    simp only [Editor.promptKey, edit?]
    split_ifs <;> rfl
  | _ => rfl

end Prompt

end Runpad
