/-
  A text area as a flat text with one offset.

  * `offset` counts the characters before the cursor, a line feed for each line
    above; `text_eq` and `offset_eq` cut the text there, and `backspace_cases` and
    its neighbours say what an operation does to the two parts;
  * `bijOn_offsetOf`: the places in the lines are the offsets in the text;
  * `Operation.FlatEffect` is what an operation does to the text and the offset,
    `Tidy.flatEffect` shows it for all of them.
-/
import Runpad.Proofs.TextArea.Operation

namespace Runpad.TextArea

/-! ## Places and offsets -/

/-- The number of characters before a place, given by its row and column. -/
def offsetOf (lines : List Text) (row column : Nat) : Nat :=
  ((lines.take row).map fun l => l.length + 1).sum + column

/-- A row and a column in that row, or at its end. -/
def IsPlace (lines : List Text) (row column : Nat) : Prop :=
  ∃ l, lines[row]? = some l ∧ column ≤ l.length

/-- The row and the column of an offset. -/
def placeOf : List Text → Nat → Nat × Nat
  | [], k => (0, k)
  | l :: lines, k =>
    if k ≤ l.length then (0, k)
    else ((placeOf lines (k - (l.length + 1))).1 + 1, (placeOf lines (k - (l.length + 1))).2)

/-- The offset of the cursor. -/
def offset (a : TextArea) : Nat :=
  offsetOf a.lines a.row a.column

@[simp] theorem offsetOf_zero (lines : List Text) (column : Nat) :
    offsetOf lines 0 column = column := by
  simp [offsetOf]

@[simp] theorem offsetOf_succ (l : Text) (lines : List Text) (row column : Nat) :
    offsetOf (l :: lines) (row + 1) column = l.length + 1 + offsetOf lines row column := by
  simp [offsetOf, Nat.add_assoc]

theorem placeOf_offsetOf {lines : List Text} {row column : Nat} (h : IsPlace lines row column) :
    placeOf lines (offsetOf lines row column) = (row, column) := by
  obtain ⟨l, hl, hc⟩ := h
  induction lines generalizing row with
  | nil => simp at hl
  | cons first lines ih =>
    cases row with
    | zero =>
      simp only [List.getElem?_cons_zero, Option.some.injEq] at hl
      subst hl
      simp [placeOf, hc]
    | succ row =>
      rw [offsetOf_succ, placeOf, if_neg (by omega), Nat.add_sub_cancel_left, ih hl]

theorem offsetOf_placeOf (lines : List Text) (k : Nat) :
    offsetOf lines (placeOf lines k).1 (placeOf lines k).2 = k := by
  induction lines generalizing k with
  | nil => simp [placeOf]
  | cons l lines ih =>
    rw [placeOf]
    split
    · simp
    · rw [offsetOf_succ, ih]; omega

/-- The offsets of all places, one for each character and one for the end of
    each line. -/
theorem offsetOf_lt {lines : List Text} {row column : Nat} (h : IsPlace lines row column) :
    offsetOf lines row column < (lines.map fun l => l.length + 1).sum := by
  obtain ⟨l, hl, hc⟩ := h
  induction lines generalizing row with
  | nil => simp at hl
  | cons first lines ih =>
    cases row with
    | zero =>
      simp only [List.getElem?_cons_zero, Option.some.injEq] at hl
      subst hl
      simp; omega
    | succ row =>
      have := ih hl
      simp only [offsetOf_succ, List.map_cons, List.sum_cons]; omega

theorem isPlace_placeOf {lines : List Text} {k : Nat}
    (h : k < (lines.map fun l => l.length + 1).sum) :
    IsPlace lines (placeOf lines k).1 (placeOf lines k).2 := by
  induction lines generalizing k with
  | nil => simp at h
  | cons l lines ih =>
    rw [placeOf]
    split
    · next hk => exact ⟨l, by simp, hk⟩
    · simp only [List.map_cons, List.sum_cons] at h
      obtain ⟨l', hl', hc⟩ := ih (k := k - (l.length + 1)) (by omega)
      exact ⟨l', by simpa using hl', hc⟩

/-! ## The text on both sides of the cursor -/

/-- The text before the cursor. -/
def textBefore (a : TextArea) : Text :=
  a.above.reverse.flatMap (· ++ ['\n']) ++ a.before.reverse

/-- The text after the cursor. -/
def textAfter (a : TextArea) : Text :=
  a.after ++ a.below.flatMap ('\n' :: ·)

/-- Lines joined from the first one on, cut at one of them. -/
theorem join_eq {first : Text} {rest upper : List Text} {line : Text} {lower : List Text}
    (h : first :: rest = upper ++ line :: lower) :
    Text.join first rest =
      upper.flatMap (· ++ ['\n']) ++ line ++ lower.flatMap ('\n' :: ·) := by
  induction upper generalizing first rest with
  | nil =>
    obtain ⟨rfl, rfl⟩ := List.cons.inj h
    simp [Text.join]
  | cons l upper ih =>
    rw [List.cons_append] at h
    obtain ⟨rfl, rfl⟩ := List.cons.inj h
    obtain ⟨next, later, hr⟩ : ∃ next later, upper ++ line :: lower = next :: later := by
      cases upper <;> simp
    rw [hr, Text.join_cons, ih hr.symm]
    simp

theorem text_eq (a : TextArea) : a.text = a.textBefore ++ a.textAfter := by
  unfold text
  split
  · next h => simp [lines] at h
  · next h => rw [join_eq h.symm]; simp [textBefore, textAfter, line]

theorem offset_eq (a : TextArea) : a.offset = a.textBefore.length := by
  simp [offset, offsetOf, textBefore, row, column, lines, List.length_flatMap]

theorem isPlace_cursor (a : TextArea) : IsPlace a.lines a.row a.column :=
  ⟨a.line, by simp [lines, row], by simp [line, column]⟩

theorem sum_lines (a : TextArea) :
    (a.lines.map fun l => l.length + 1).sum = a.text.length + 1 := by
  have hlines : a.lines.flatMap (· ++ ['\n']) = a.text ++ ['\n'] := by
    have hfeeds : ∀ below : List Text,
        '\n' :: below.flatMap (· ++ ['\n']) = below.flatMap ('\n' :: ·) ++ ['\n'] := by
      intro below
      induction below with
      | nil => rfl
      | cons l below ih => simp [ih]
    simp [lines, text_eq, textBefore, textAfter, line, hfeeds]
  have := congrArg List.length hlines
  simpa [List.length_flatMap] using this

/-- **The places of the cursor are the offsets in the text.** -/
theorem bijOn_offsetOf (a : TextArea) :
    Set.BijOn (fun p : Nat × Nat => offsetOf a.lines p.1 p.2)
      {p | IsPlace a.lines p.1 p.2} {k | k ≤ a.text.length} := by
  refine ⟨?_, ?_, ?_⟩
  · rintro ⟨row, column⟩ h
    have := offsetOf_lt h
    rw [sum_lines] at this
    exact Nat.le_of_lt_succ this
  · rintro ⟨row, column⟩ h ⟨row', column'⟩ h' he
    rw [← placeOf_offsetOf h, ← placeOf_offsetOf h']
    exact congrArg (placeOf a.lines) he
  · intro k hk
    refine ⟨placeOf a.lines k, isPlace_placeOf ?_, offsetOf_placeOf a.lines k⟩
    rw [sum_lines]
    exact Nat.lt_succ_of_le hk

/-! ## Edits and steps at the cursor -/

theorem textBefore_insert (c : Char) (a : TextArea) :
    (a.insert c).textBefore = a.textBefore ++ [c] := by
  unfold insert
  split
  · next h => simp [breakLine, textBefore, h]
  · simp [textBefore]

theorem textAfter_insert (c : Char) (a : TextArea) : (a.insert c).textAfter = a.textAfter := by
  unfold insert
  split <;> rfl

theorem textBefore_insertAll (t : Text) (a : TextArea) :
    (a.insertAll t).textBefore = a.textBefore ++ t := by
  induction t generalizing a with
  | nil => simp [insertAll]
  | cons c t ih =>
    rw [insertAll, List.foldl_cons, ← insertAll, ih, textBefore_insert]
    simp

theorem textAfter_insertAll (t : Text) (a : TextArea) :
    (a.insertAll t).textAfter = a.textAfter := by
  induction t generalizing a with
  | nil => rfl
  | cons c t ih => rw [insertAll, List.foldl_cons, ← insertAll, ih, textAfter_insert]

/-- A backspace takes the last character before the cursor, if there is one. -/
theorem backspace_cases (a : TextArea) :
    (a.textBefore = [] ∧ a.backspace = a) ∨
    ∃ c, a.textBefore = a.backspace.textBefore ++ [c] ∧ a.backspace.textAfter = a.textAfter := by
  obtain ⟨above, before, after, below, r, k⟩ := a
  cases before with
  | cons c before => exact Or.inr ⟨c, by simp [textBefore, backspace], rfl⟩
  | nil =>
    cases above with
    | nil => exact Or.inl ⟨rfl, rfl⟩
    | cons previous above => exact Or.inr ⟨'\n', by simp [textBefore, backspace], rfl⟩

/-- A deletion takes the first character after the cursor, if there is one. -/
theorem delete_cases (a : TextArea) :
    (a.textAfter = [] ∧ a.delete = a) ∨
    ∃ c, a.textAfter = c :: a.delete.textAfter ∧ a.delete.textBefore = a.textBefore := by
  obtain ⟨above, before, after, below, r, k⟩ := a
  cases after with
  | cons c after => exact Or.inr ⟨c, by simp [textAfter, delete], rfl⟩
  | nil =>
    cases below with
    | nil => exact Or.inl ⟨rfl, rfl⟩
    | cons next below => exact Or.inr ⟨'\n', by simp [textAfter, delete], rfl⟩

/-- A step back takes the last character before the cursor over to the other
    side. -/
theorem moveLeft_cases (a : TextArea) :
    (a.textBefore = [] ∧ a.moveLeft = a) ∨
    ∃ c, a.textBefore = a.moveLeft.textBefore ++ [c] ∧
      a.moveLeft.textAfter = c :: a.textAfter := by
  obtain ⟨above, before, after, below, r, k⟩ := a
  cases before with
  | cons c before => exact Or.inr ⟨c, by simp [textBefore, moveLeft], by simp [textAfter, moveLeft]⟩
  | nil =>
    cases above with
    | nil => exact Or.inl ⟨rfl, rfl⟩
    | cons previous above =>
      exact Or.inr ⟨'\n', by simp [textBefore, moveLeft], by simp [textAfter, moveLeft]⟩

/-- A step on takes the first character after the cursor over to the other
    side. -/
theorem moveRight_cases (a : TextArea) :
    (a.textAfter = [] ∧ a.moveRight = a) ∨
    ∃ c, a.textAfter = c :: a.moveRight.textAfter ∧
      a.moveRight.textBefore = a.textBefore ++ [c] := by
  obtain ⟨above, before, after, below, r, k⟩ := a
  cases after with
  | cons c after =>
    exact Or.inr ⟨c, by simp [textAfter, moveRight], by simp [textBefore, moveRight]⟩
  | nil =>
    cases below with
    | nil => exact Or.inl ⟨rfl, rfl⟩
    | cons next below =>
      exact Or.inr ⟨'\n', by simp [textAfter, moveRight], by simp [textBefore, moveRight]⟩

/-! ## Starts and ends of lines -/

/-- An offset at which a line starts. -/
def IsLineStart (t : Text) (k : Nat) : Prop :=
  k = 0 ∨ t[k - 1]? = some '\n'

/-- An offset at which a line ends. -/
def IsLineEnd (t : Text) (k : Nat) : Prop :=
  k = t.length ∨ t[k]? = some '\n'

/-- The last line start that has a piece of one line after it. -/
theorem isGreatest_lineStart {s : Text} (hs : s = [] ∨ s.getLast? = some '\n') {t : Text}
    (ht : '\n' ∉ t) (u : Text) :
    IsGreatest {k | k ≤ (s ++ t).length ∧ IsLineStart (s ++ t ++ u) k} s.length := by
  refine ⟨⟨by simp, ?_⟩, ?_⟩
  · rcases hs with rfl | hs
    · exact Or.inl rfl
    · refine Or.inr ?_
      have hlt : s.length - 1 < s.length := by
        have : s ≠ [] := by rintro rfl; simp at hs
        have := List.length_pos_iff.2 this
        omega
      rwa [List.append_assoc, List.getElem?_append_left hlt, ← List.getLast?_eq_getElem?]
  · rintro k ⟨hk, rfl | hstart⟩
    · exact Nat.zero_le _
    · by_contra hlt
      rw [List.length_append] at hk
      -- A start behind `s` would have its line feed within `t`.
      rw [List.append_assoc, List.getElem?_append_right (by omega),
        List.getElem?_append_left (by omega)] at hstart
      exact ht (List.mem_of_getElem? hstart)

/-- The first line end that has a piece of one line before it. -/
theorem isLeast_lineEnd (s : Text) {t : Text} (ht : '\n' ∉ t) {u : Text}
    (hu : u = [] ∨ u.head? = some '\n') :
    IsLeast {k | s.length ≤ k ∧ IsLineEnd (s ++ t ++ u) k} (s ++ t).length := by
  refine ⟨⟨by simp, ?_⟩, ?_⟩
  · rcases hu with rfl | hu
    · exact Or.inl (by simp)
    · refine Or.inr ?_
      rw [List.getElem?_append_right le_rfl, Nat.sub_self, ← List.head?_eq_getElem?, hu]
  · rintro k ⟨hk, rfl | hend⟩
    · simp
    · by_contra hlt
      rw [not_le, List.length_append] at hlt
      rw [List.append_assoc, List.getElem?_append_right hk,
        List.getElem?_append_left (by omega)] at hend
      exact ht (List.mem_of_getElem? hend)

theorem toLineStart_spec {a : TextArea} (h : a.Tidy) :
    IsGreatest {k | k ≤ a.offset ∧ IsLineStart a.text k} a.toLineStart.offset := by
  rw [offset_eq, offset_eq, text_eq]
  have hs : a.toLineStart.textBefore = [] ∨ a.toLineStart.textBefore.getLast? = some '\n' := by
    rcases ha : a.above with _ | ⟨previous, above⟩ <;> simp [textBefore, toLineStart, ha]
  have hb : a.textBefore = a.toLineStart.textBefore ++ a.before.reverse := by
    simp [textBefore, toLineStart]
  rw [hb]
  exact isGreatest_lineStart hs (by simpa using h.before) _

theorem toLineEnd_spec {a : TextArea} (h : a.Tidy) :
    IsLeast {k | a.offset ≤ k ∧ IsLineEnd a.text k} a.toLineEnd.offset := by
  rw [offset_eq, offset_eq, text_eq]
  have hu : a.toLineEnd.textAfter = [] ∨ a.toLineEnd.textAfter.head? = some '\n' := by
    rcases hb : a.below with _ | ⟨next, below⟩ <;> simp [textAfter, toLineEnd, hb]
  have hb : a.toLineEnd.textBefore = a.textBefore ++ a.after := by
    simp [textBefore, toLineEnd, line]
  have ha : a.textAfter = a.after ++ a.toLineEnd.textAfter := by
    simp [textAfter, toLineEnd]
  rw [hb, ha, ← List.append_assoc]
  exact isLeast_lineEnd _ h.after hu

/-! ## Moves to other lines -/

/-- `b` is `a` with the cursor on the given row, as near to its column as that
    line allows. -/
def MovedTo (row : Nat) (a b : TextArea) : Prop :=
  b.lines = a.lines ∧ b.row = row ∧
    ∃ l, a.lines[row]? = some l ∧ b.column = min a.column l.length

theorem row_lt_lineCount (a : TextArea) : a.row < a.lineCount := by
  simp only [row, lineCount]; omega

theorem movedTo_toRow {row : Nat} {a : TextArea} (h : row < a.lineCount) :
    MovedTo row a (a.toRow row) := by
  rw [← length_lines] at h
  have hd := List.drop_eq_getElem_cons h
  refine ⟨lines_toRow row a, ?_, a.lines[row], List.getElem?_eq_getElem h, ?_⟩
  · simp only [toRow, hd, TextArea.row, List.length_reverse, List.length_take]; omega
  · simp only [toRow, hd, column, List.length_reverse, List.length_take]

theorem text_of_lines {a b : TextArea} (h : b.lines = a.lines) : b.text = a.text := by
  simp only [text, h]

/-! ## All operations -/

/-- `b` is `a` with a text put in before the cursor. -/
def Inserted (t : Text) (a b : TextArea) : Prop :=
  b.text = a.text.take a.offset ++ t ++ a.text.drop a.offset ∧ b.offset = a.offset + t.length

/-- `b` is `a` without the character at an offset, and the cursor at that
    offset. -/
def ErasedAt (k : Nat) (a b : TextArea) : Prop :=
  b.text = a.text.eraseIdx k ∧ b.offset = k

/-- What an operation that makes `b` of `a` does, said of the flat text and its
    offset, and of rows where it moves by rows. -/
def Operation.FlatEffect (a b : TextArea) : Operation → Prop
  | .setText t => b.text = t ∧ b.offset = 0
  | .clear => b.text = [] ∧ b.offset = 0
  | .insert c => Inserted [c] a b
  | .paste t => Inserted (Text.unifyBreaks t) a b
  | .breakLine => Inserted ['\n'] a b
  | .insertTab => Inserted [' ', ' ', ' ', ' '] a b
  | .backspace => (b = a ↔ a.offset = 0) ∧ (a.offset ≠ 0 → ErasedAt (a.offset - 1) a b)
  | .delete =>
    (b = a ↔ a.offset = a.text.length) ∧ (a.offset ≠ a.text.length → ErasedAt a.offset a b)
  | .moveLeft => b.text = a.text ∧ b.offset = a.offset - 1
  | .moveRight => b.text = a.text ∧ b.offset = min (a.offset + 1) a.text.length
  | .moveUp => b.text = a.text ∧ MovedTo (a.row - 1) a b
  | .moveDown => b.text = a.text ∧ MovedTo (min (a.row + 1) (a.lines.length - 1)) a b
  | .toLineStart =>
    b.text = a.text ∧ IsGreatest {k | k ≤ a.offset ∧ IsLineStart a.text k} b.offset
  | .toLineEnd => b.text = a.text ∧ IsLeast {k | a.offset ≤ k ∧ IsLineEnd a.text k} b.offset
  | .pageUp rows => b.text = a.text ∧ MovedTo (a.row - max rows 1) a b
  | .pageDown rows =>
    b.text = a.text ∧ MovedTo (min (a.row + max rows 1) (a.lines.length - 1)) a b
  | .scroll _ _ => b.text = a.text ∧ b.offset = a.offset

theorem inserted_of {t : Text} {a b : TextArea} (hb : b.textBefore = a.textBefore ++ t)
    (ha : b.textAfter = a.textAfter) : Inserted t a b := by
  rw [Inserted, offset_eq, offset_eq, text_eq, text_eq, hb, ha]
  simp

theorem inserted_insertAll (t : Text) (a : TextArea) : Inserted t a (a.insertAll t) :=
  inserted_of (textBefore_insertAll t a) (textAfter_insertAll t a)

theorem inserted_insert (c : Char) (a : TextArea) : Inserted [c] a (a.insert c) :=
  inserted_of (textBefore_insert c a) (textAfter_insert c a)

theorem movedTo_effect {row : Nat} {a : TextArea} (h : row < a.lineCount) :
    (a.toRow row).text = a.text ∧ MovedTo row a (a.toRow row) :=
  ⟨text_of_lines (lines_toRow row a), movedTo_toRow h⟩

theorem flatEffect_backspace (a : TextArea) :
    Operation.FlatEffect a a.backspace .backspace := by
  simp only [Operation.FlatEffect, ErasedAt, offset_eq, text_eq]
  rcases backspace_cases a with ⟨hb, he⟩ | ⟨c, hb, ha⟩
  · simp [hb, he]
  · have hne : a.backspace ≠ a := fun he => by
      rw [he] at hb; simpa using congrArg List.length hb
    rw [ha, hb]
    simp [hne, List.eraseIdx_append_of_length_le]

theorem flatEffect_delete (a : TextArea) : Operation.FlatEffect a a.delete .delete := by
  simp only [Operation.FlatEffect, ErasedAt, offset_eq, text_eq]
  rcases delete_cases a with ⟨ha, he⟩ | ⟨c, ha, hb⟩
  · simp [ha, he]
  · have hne : a.delete ≠ a := fun he => by
      rw [he] at ha; simpa using congrArg List.length ha
    rw [ha, hb]
    simp [hne, List.eraseIdx_append_of_length_le]

theorem flatEffect_moveLeft (a : TextArea) :
    Operation.FlatEffect a a.moveLeft .moveLeft := by
  simp only [Operation.FlatEffect, offset_eq, text_eq]
  rcases moveLeft_cases a with ⟨hb, he⟩ | ⟨c, hb, ha⟩
  · simp [hb, he]
  · rw [ha, hb]; simp

theorem flatEffect_moveRight (a : TextArea) :
    Operation.FlatEffect a a.moveRight .moveRight := by
  simp only [Operation.FlatEffect, offset_eq, text_eq]
  rcases moveRight_cases a with ⟨ha, he⟩ | ⟨c, ha, hb⟩
  · simp [ha, he]
  · rw [ha, hb]; simp

/-- **Every operation on a tidy area is one on a flat text with an offset.** -/
theorem Tidy.flatEffect {a : TextArea} (h : a.Tidy) (op : Operation) :
    op.FlatEffect a (op.apply a) := by
  have hrow := row_lt_lineCount a
  have hlen := length_lines a
  cases op with
  | setText t => exact ⟨text_ofText t, by simp [Operation.apply, offset_eq, textBefore, ofText]⟩
  | clear => exact ⟨text_ofText [], rfl⟩
  | insert c => exact inserted_insert c a
  | paste t => exact inserted_insertAll _ a
  | breakLine =>
    rw [Operation.apply, breakLine_eq_insert]; exact inserted_insert '\n' a
  | insertTab => exact inserted_insertAll tabStop a
  | backspace => exact flatEffect_backspace a
  | delete => exact flatEffect_delete a
  | moveLeft => exact flatEffect_moveLeft a
  | moveRight => exact flatEffect_moveRight a
  | moveUp => exact movedTo_effect (by omega)
  | moveDown =>
    rw [Operation.FlatEffect, hlen]; exact movedTo_effect (by omega)
  | toLineStart => exact ⟨text_of_lines (lines_toLineStart a), toLineStart_spec h⟩
  | toLineEnd => exact ⟨text_of_lines (lines_toLineEnd a), toLineEnd_spec h⟩
  | pageUp rows => exact movedTo_effect (by omega)
  | pageDown rows =>
    rw [Operation.FlatEffect, hlen]; exact movedTo_effect (by omega)
  | scroll width height => exact ⟨rfl, rfl⟩

end Runpad.TextArea
