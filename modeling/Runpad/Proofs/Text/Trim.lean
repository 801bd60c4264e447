/-
  What trimming leaves of a text.

  * `trimEnd_eq_rdropWhile`: the end is trimmed as the start is, from the other
    side;
  * `trim_eq_self_iff`: a text stays as it is iff it neither starts nor ends in a
    blank;
  * `filter_trim`: the characters that are not blank all stay;
  * `Stripped` says that a text is another one without the blanks around it, and
    `trim_eq_iff`: there is one such text, the trimmed one;
  * `trim_eq_nil_iff`: nothing is left of blanks, and of blanks only.
-/
import Mathlib
import Runpad.Text.Blank

namespace Runpad.Text

variable {t s : Text}

theorem trimEnd_eq_rdropWhile (t : Text) : trimEnd t = t.rdropWhile isBlank := by
  unfold List.rdropWhile
  induction t with
  | nil => rfl
  | cons c rest ih =>
    rw [List.reverse_cons, List.dropWhile_append]
    by_cases hrest : rest.reverse.dropWhile isBlank = []
    · rw [hrest] at ih ⊢
      by_cases hc : isBlank c <;> simp [trimEnd, ih, hc]
    · -- Something is left of the rest, so `c` stays in front of it.
      obtain ⟨d, kept, hkept⟩ := List.exists_cons_of_ne_nil (List.reverse_ne_nil_iff.2 hrest)
      rw [hkept] at ih
      simp [trimEnd, ih, hrest, hkept]

theorem trimStart_eq_self_iff : trimStart t = t ↔ ∀ c ∈ t.head?, isBlank c = false := by
  rw [trimStart, List.dropWhile_eq_self_iff]
  cases t <;> simp

theorem trimEnd_eq_self_iff : trimEnd t = t ↔ ∀ c ∈ t.getLast?, isBlank c = false := by
  rw [trimEnd_eq_rdropWhile, List.rdropWhile_eq_self_iff]
  constructor
  · intro h c hc
    obtain ⟨hne, rfl⟩ := List.mem_getLast?_eq_getLast hc
    simpa using h hne
  · intro h hne
    simpa using h _ (List.getLast?_eq_getLast_of_ne_nil hne)

/-- A text stays as it is iff there are no blanks around it. -/
theorem trim_eq_self_iff :
    trim t = t ↔ (∀ c ∈ t.head?, isBlank c = false) ∧ ∀ c ∈ t.getLast?, isBlank c = false := by
  rw [← trimStart_eq_self_iff, ← trimEnd_eq_self_iff]
  constructor
  · intro h
    rw [← h]
    exact ⟨trimStart_trimEnd_trimStart t, trimEnd_trimEnd (trimStart t)⟩
  · rintro ⟨hstart, hend⟩
    rw [trim, hstart, hend]

theorem filter_trimStart (t : Text) :
    (trimStart t).filter (fun c => !isBlank c) = t.filter fun c => !isBlank c := by
  unfold trimStart
  induction t with
  | nil => rfl
  | cons c rest ih => by_cases hc : isBlank c <;> simp [hc, ih]

theorem filter_trimEnd (t : Text) :
    (trimEnd t).filter (fun c => !isBlank c) = t.filter fun c => !isBlank c := by
  have hreverse := filter_trimStart t.reverse
  rw [trimStart] at hreverse
  rw [trimEnd_eq_rdropWhile, List.rdropWhile, List.filter_reverse, hreverse, List.filter_reverse,
    List.reverse_reverse]

/-- All that is dropped is blank. -/
theorem filter_trim (t : Text) :
    (trim t).filter (fun c => !isBlank c) = t.filter fun c => !isBlank c := by
  rw [trim, filter_trimEnd, filter_trimStart]

/-! ## One way to trim -/

/-- `s` is `t` without blanks at its start and its end, and nothing else is missing. -/
structure Stripped (t s : Text) : Prop where
  around : ∃ lead trail, t = lead ++ s ++ trail ∧ (∀ c ∈ lead, isBlank c = true) ∧
    ∀ c ∈ trail, isBlank c = true
  starts : ∀ c ∈ s.head?, isBlank c = false
  ends : ∀ c ∈ s.getLast?, isBlank c = false

theorem stripped_trim (t : Text) : Stripped t (trim t) where
  around := by
    refine ⟨t.takeWhile isBlank, (trimStart t).rtakeWhile isBlank, ?_,
      fun c hc => List.mem_takeWhile_imp hc, fun c hc => List.mem_rtakeWhile_imp hc⟩
    rw [trim, trimEnd_eq_rdropWhile, List.append_assoc, List.rdropWhile_append_rtakeWhile,
      trimStart, List.takeWhile_append_dropWhile]
  starts := (trim_eq_self_iff.1 (trim_trim t)).1
  ends := (trim_eq_self_iff.1 (trim_trim t)).2

theorem trimStart_append (h : ∀ c ∈ s, isBlank c = true) (t : Text) :
    trimStart (s ++ t) = trimStart t :=
  List.dropWhile_append_of_pos h

theorem trimEnd_append (h : ∀ c ∈ s, isBlank c = true) (t : Text) :
    trimEnd (t ++ s) = trimEnd t := by
  rw [trimEnd_eq_rdropWhile, trimEnd_eq_rdropWhile, List.rdropWhile, List.rdropWhile,
    List.reverse_append, List.dropWhile_append_of_pos fun c hc => h c (List.mem_reverse.1 hc)]

/-- There is one way to strip a text. -/
theorem trim_eq_iff : trim t = s ↔ Stripped t s := by
  constructor
  · rintro rfl
    exact stripped_trim t
  · rintro ⟨⟨lead, trail, rfl, hlead, htrail⟩, hstarts, hends⟩
    rw [List.append_assoc, trim, trimStart_append hlead]
    cases s with
    | nil =>
      have hall : trimStart trail = [] := List.dropWhile_eq_nil_iff.2 htrail
      rw [List.nil_append, hall]
      rfl
    | cons c s =>
      have hstart : trimStart (c :: s ++ trail) = c :: s ++ trail :=
        trimStart_eq_self_iff.2 hstarts
      rw [hstart, trimEnd_append htrail, trimEnd_eq_self_iff.2 hends]

theorem trim_eq_nil_iff : trim t = [] ↔ ∀ c ∈ t, isBlank c = true := by
  constructor
  · intro h c hc
    by_contra hblank
    have hmem : c ∈ (trim t).filter fun c => !isBlank c := by
      rw [filter_trim]
      simpa [hc] using hblank
    simp [h] at hmem
  · intro h
    exact trim_eq_iff.2 ⟨⟨t, [], by simp, h, by simp⟩, by simp, by simp⟩

end Runpad.Text
