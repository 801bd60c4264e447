/-
  What a settings file says.

  * `TextLines` are its lines up to the first one that is no text; there are such lines
    for all bytes (`exists_textLines`);
  * `IsEntry` is a line with a key and a value around its first equals sign, and
    `parseLine_eq_some_iff`: these are the lines that are read;
  * `fileEntries_eq`: the entries of a file are those of its lines, in their order, and
    `lastLine_iff`: the last line for a key has the last value under it.
-/
import Mathlib
import Runpad.Proofs.Disk.Read
import Runpad.Proofs.Gateway.Framing
import Runpad.Proofs.Settings.Entries
import Runpad.Proofs.Text.Trim
import Runpad.Proofs.Text.Utf8

namespace Runpad.Settings

open Text (Stripped)

variable {content : Bytes} {lines : List Text} {parts rest : List Bytes} {line key value : Text}

/-! ## Lines -/

/-- The lines of a file up to the first one that is no text.  What comes after the last
    line feed counts as a line. -/
def TextLines (content : Bytes) (lines : List Text) : Prop :=
  ∃ rest, content.splitOn 10 = lines.map Utf8.encode ++ rest ∧
    ∀ part ∈ rest.head?, ∀ t, Utf8.encode t ≠ part

/-- The texts that parts are, up to the first one that is none. -/
def texts (parts : List Bytes) : List Text :=
  ((parts.map Utf8.decode?).takeWhile Option.isSome).filterMap id

theorem texts_encode_cons (t : Text) (parts : List Bytes) :
    texts (Utf8.encode t :: parts) = t :: texts parts := by
  simp [texts, Utf8.decode?, Except.toOption]

theorem texts_append (lines : List Text) (rest : List Bytes) :
    texts (lines.map Utf8.encode ++ rest) = lines ++ texts rest := by
  induction lines with
  | nil => rfl
  | cons t lines ih => rw [List.map_cons, List.cons_append, texts_encode_cons, ih, List.cons_append]

theorem texts_eq_nil (h : ∀ part ∈ rest.head?, ∀ t, Utf8.encode t ≠ part) : texts rest = [] := by
  cases rest with
  | nil => rfl
  | cons part rest =>
    have hnone : Utf8.decode? part = none :=
      Utf8.decode?_eq_none_iff.2 fun t => Ne.symm (h part rfl t)
    simp [texts, hnone]

/-- The parts before the first one that is no text. -/
theorem exists_texts (parts : List Bytes) :
    ∃ rest, parts = (texts parts).map Utf8.encode ++ rest ∧
      ∀ part ∈ rest.head?, ∀ t, Utf8.encode t ≠ part := by
  induction parts with
  | nil => exact ⟨[], rfl, by simp⟩
  | cons part parts ih =>
    by_cases hpart : ∃ t, Utf8.encode t = part
    · obtain ⟨t, rfl⟩ := hpart
      obtain ⟨rest, hparts, hrest⟩ := ih
      refine ⟨rest, ?_, hrest⟩
      rw [texts_encode_cons, List.map_cons, List.cons_append, ← hparts]
    · have hhead : ∀ first ∈ (part :: parts).head?, ∀ t, Utf8.encode t ≠ first := by
        rintro first hfirst t ht
        obtain rfl : part = first := by simpa using hfirst
        exact hpart ⟨t, ht⟩
      exact ⟨part :: parts, by rw [texts_eq_nil hhead]; rfl, hhead⟩

theorem textLines_texts (content : Bytes) : TextLines content (texts (content.splitOn 10)) :=
  exists_texts (content.splitOn 10)

theorem TextLines.eq (h : TextLines content lines) : lines = texts (content.splitOn 10) := by
  obtain ⟨rest, hsplit, hrest⟩ := h
  rw [hsplit, texts_append, texts_eq_nil hrest, List.append_nil]

theorem notMem_of_mem_splitOn {b : UInt8} {part : Bytes} (h : part ∈ content.splitOn b) :
    b ∉ part := by
  induction content generalizing part with
  | nil => simp_all
  | cons first content ih =>
    rw [List.splitOn_cons_eq_if_modifyHead] at h
    split at h
    · rcases List.mem_cons.1 h with rfl | h
      · simp
      · exact ih h
    · next hfirst =>
      obtain ⟨head, later, hsplit⟩ := List.exists_cons_of_ne_nil (List.splitOn_ne_nil b content)
      rw [hsplit, List.modifyHead_cons] at h
      rw [hsplit] at ih
      rcases List.mem_cons.1 h with rfl | h
      · have hne : b ≠ first := fun heq => hfirst (by simp [heq])
        simpa [hne] using ih List.mem_cons_self
      · exact ih (List.mem_cons_of_mem _ h)

/-- No line holds a line feed. -/
theorem TextLines.oneLine (h : TextLines content lines) (hline : line ∈ lines) : '\n' ∉ line := by
  obtain ⟨rest, hsplit, -⟩ := h
  have hpart : Utf8.encode line ∈ content.splitOn 10 := by
    rw [hsplit]
    exact List.mem_append_left _ (List.mem_map_of_mem hline)
  exact fun hfeed => notMem_of_mem_splitOn hpart (List.mem_flatMap.2 ⟨'\n', hfeed, by decide⟩)

/-- The lines are the parts between line feeds, but for an empty last one. -/
theorem splitOn_eq_byteLines (content : Bytes) :
    content.splitOn 10 = byteLines content ∨ content.splitOn 10 = byteLines content ++ [[]] := by
  have hcut : content.splitOn 10 =
      let cut := content.foldr (fun b (cut : Bytes × List Bytes) =>
        if b = 10 then ([], cut.1 :: cut.2) else (b :: cut.1, cut.2)) ([], [])
      cut.1 :: cut.2 := by
    induction content with
    | nil => rfl
    | cons b content ih =>
      rw [List.splitOn_cons_eq_if_modifyHead, ih, List.foldr_cons]
      by_cases hb : b = 10 <;> simp [hb]
  have hlines : byteLines content = if (content.splitOn 10).getLast? = some []
      then (content.splitOn 10).dropLast else content.splitOn 10 := by
    rw [hcut]
    rfl
  rw [hlines]
  split_ifs with hlast
  · exact Or.inr (List.dropLast_append_getLast? [] hlast).symm
  · exact Or.inl rfl

/-! ## Entries of a line -/

/-- A line with an entry: it is no comment, and without blanks the key stands before its
    first equals sign and the value after it. -/
def IsEntry (line key value : Text) : Prop :=
  ∃ left right, Stripped line (left ++ '=' :: right) ∧ '=' ∉ left ∧ left.head? ≠ some '#' ∧
    Stripped left key ∧ Stripped right value

/-- A line whose text without blanks is cut at its first equals sign. -/
theorem parseLine_split {left right : Text} (hline : Text.trim line = left ++ '=' :: right)
    (hleft : '=' ∉ left) :
    parseLine line = if left.head? = some '#' then none
      else some (Text.trim left, Text.trim right) := by
  have hhead : (left ++ '=' :: right).head? = some '#' ↔ left.head? = some '#' := by
    cases left <;> simp
  simp only [parseLine, hline, Gateway.dropWhile_ne_append hleft,
    Gateway.takeWhile_ne_append hleft, hhead]

theorem parseLine_eq_none (h : '=' ∉ Text.trim line) : parseLine line = none := by
  have hdrop : (Text.trim line).dropWhile (· ≠ '=') = [] := by
    rw [List.dropWhile_eq_nil_iff]
    intro c hc
    simpa using ne_of_mem_of_not_mem hc h
  simp only [parseLine, hdrop]
  split <;> rfl

/-- **The lines that are read are the lines with an entry.** -/
theorem parseLine_eq_some_iff : parseLine line = some (key, value) ↔ IsEntry line key value := by
  constructor
  · intro h
    by_cases hequals : '=' ∈ Text.trim line
    · obtain ⟨left, right, hline, hleft⟩ := List.eq_append_cons_of_mem hequals
      rw [parseLine_split hline hleft] at h
      split_ifs at h with hcomment
      obtain ⟨rfl, rfl⟩ := Prod.ext_iff.1 (Option.some.inj h)
      exact ⟨left, right, Text.trim_eq_iff.1 hline, hleft, hcomment, Text.stripped_trim left,
        Text.stripped_trim right⟩
    · rw [parseLine_eq_none hequals] at h
      cases h
  · rintro ⟨left, right, hline, hleft, hcomment, hkey, hvalue⟩
    rw [parseLine_split (Text.trim_eq_iff.2 hline) hleft, if_neg hcomment,
      Text.trim_eq_iff.2 hkey, Text.trim_eq_iff.2 hvalue]

/-! ## Entries of a file -/

/-- The entries of a file are those of its lines. -/
theorem fileEntries_eq (h : TextLines content lines) :
    fileEntries content = lines.filterMap parseLine := by
  obtain ⟨rest, hparts, hrest⟩ := exists_texts (byteLines content)
  have hfile : fileEntries content = (texts (byteLines content)).filterMap parseLine := rfl
  rw [hfile, h.eq]
  rcases splitOn_eq_byteLines content with hsplit | hsplit
  · rw [hsplit]
  · rw [hsplit]
    conv_rhs => rw [hparts, List.append_assoc, texts_append]
    cases rest with
    | nil =>
      -- the empty line at the end has no entry
      rw [List.filterMap_append]
      exact (List.append_nil _).symm
    | cons part rest =>
      have hnil : texts (part :: rest ++ [[]]) = [] := texts_eq_nil hrest
      rw [hnil, List.append_nil]

/-- The value of the last line with an entry for this key. -/
def LastLine (lines : List Text) (key value : Text) : Prop :=
  ∃ before line after, lines = before ++ line :: after ∧ IsEntry line key value ∧
    ∀ other ∈ after, ∀ v, ¬ IsEntry other key v

theorem absent_iff :
    (∀ entry ∈ lines.filterMap parseLine, entry.1 ≠ key) ↔
      ∀ line ∈ lines, ∀ v, ¬ IsEntry line key v := by
  simp only [List.mem_filterMap, ← parseLine_eq_some_iff]
  constructor
  · intro h line hline v hv
    exact h (key, v) ⟨line, hline, hv⟩ rfl
  · rintro h ⟨key', v⟩ ⟨line, hline, hv⟩ rfl
    exact h line hline v hv

theorem lastLine_iff :
    LastLine lines key value ↔ LastUnder (lines.filterMap parseLine) key value := by
  constructor
  · rintro ⟨before, line, after, rfl, hline, hafter⟩
    refine ⟨before.filterMap parseLine, after.filterMap parseLine, ?_, absent_iff.2 hafter⟩
    rw [List.filterMap_append, List.filterMap_cons_some (parseLine_eq_some_iff.2 hline)]
  · rintro ⟨before, after, heq, hafter⟩
    obtain ⟨first, later, rfl, -, hlater⟩ := List.filterMap_eq_append_iff.1 heq
    obtain ⟨skipped, line, last, rfl, hskipped, hline, rfl⟩ := List.filterMap_eq_cons_iff.1 hlater
    refine ⟨first ++ skipped, line, last, by rw [List.append_assoc],
      parseLine_eq_some_iff.1 hline, absent_iff.1 hafter⟩

end Runpad.Settings
