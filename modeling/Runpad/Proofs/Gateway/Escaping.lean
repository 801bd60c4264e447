/-
  Texts that come back when they are read and written again.

  * `scan` cuts a text into the pieces in which it is read from its left: a
    backslash with the character after it, and any other character alone;
    `scan_induction` is the induction over them;
  * `WellEscaped` texts hold no line break, and each of their pieces that starts
    with a backslash is a known pair; `escape_unescape_iff`: they are the texts
    that come back, and `wellEscaped_iff`: the ones that are written;
  * `EndsOpen` texts end within a pair; `unescape_append`: what follows any other
    text is read as if it stood alone;
  * `escaping_inverse`: all of it.
-/
import Mathlib
import Runpad.Gateway.Escape

namespace Runpad.Gateway

/-! ## Pieces -/

/-- The pieces in which a text is read from its left: a backslash with the
    character after it, whichever that is, and any other character alone. -/
def scan : Text → List Text
  | '\\' :: d :: rest => ['\\', d] :: scan rest
  | c :: rest => [c] :: scan rest
  | [] => []

/-- The pairs that stand for a character. -/
def knownPairs : List Text :=
  [['\\', '\\'], ['\\', 'r'], ['\\', 'n']]

/-- The text ends on a backslash that no character follows. -/
def EndsOpen (t : Text) : Prop :=
  (scan t).getLast? = some ['\\']

instance : DecidablePred EndsOpen := fun t =>
  inferInstanceAs (Decidable ((scan t).getLast? = some ['\\']))

/-- Texts without a line break in which, read from the left, every backslash starts
    a known pair. -/
structure WellEscaped (s : Text) : Prop where
  noReturn : '\r' ∉ s
  noFeed : '\n' ∉ s
  pairs : ∀ piece ∈ scan s, piece.head? = some '\\' → piece ∈ knownPairs

/-- Induction over the pieces of a text; a backslash alone comes last. -/
@[elab_as_elim]
theorem scan_induction {motive : Text → Prop} (nil : motive []) (lone : motive ['\\'])
    (pair : ∀ d t, motive t → motive ('\\' :: d :: t))
    (char : ∀ c t, c ≠ '\\' → motive t → motive (c :: t)) (t : Text) : motive t := by
  induction t using scan.induct with
  | case1 d rest ih => exact pair d rest ih
  | case2 c rest hc ih =>
    by_cases hs : c = '\\'
    · cases rest with
      | nil =>
        rw [hs]
        exact lone
      | cons d rest => exact absurd rfl (hc d rest hs)
    · exact char c rest hs ih
  | case3 => exact nil

theorem scan_cons {c : Char} (h : c ≠ '\\') (t : Text) : scan (c :: t) = [c] :: scan t := by
  rw [scan]
  rintro d rest rfl
  exact absurd rfl h

/-- A first piece that is no lone backslash does not matter to the last one. -/
theorem getLast?_pieces {piece : Text} (h : piece ≠ ['\\']) (later : List Text) :
    (piece :: later).getLast? = some ['\\'] ↔ later.getLast? = some ['\\'] := by
  cases later with
  | nil => simp [h]
  | cons next rest => rw [List.getLast?_cons_cons]

theorem endsOpen_pair (d : Char) (t : Text) : EndsOpen ('\\' :: d :: t) ↔ EndsOpen t := by
  unfold EndsOpen
  rw [scan]
  exact getLast?_pieces (by simp) (scan t)

theorem endsOpen_cons {c : Char} (h : c ≠ '\\') (t : Text) : EndsOpen (c :: t) ↔ EndsOpen t := by
  unfold EndsOpen
  rw [scan_cons h]
  exact getLast?_pieces (by simp [h]) (scan t)

theorem pair_mem_knownPairs {d : Char} :
    ['\\', d] ∈ knownPairs ↔ d = '\\' ∨ d = 'r' ∨ d = 'n' := by
  simp [knownPairs]

/-! ## What is written -/

/-- A character that was written is one piece. -/
theorem scan_escapeChar (c : Char) (t : Text) :
    scan (escapeChar c ++ t) = escapeChar c :: scan t := by
  unfold escapeChar
  split_ifs with hs hr hn
  · rfl
  · rfl
  · rfl
  · exact scan_cons hs t

/-- The pieces of a written text are its characters as they are written. -/
theorem scan_escape (t : Text) : scan (escape t) = t.map escapeChar := by
  induction t with
  | nil => rfl
  | cons c t ih => rw [escape_cons, scan_escapeChar, ih, List.map_cons]

theorem escapeChar_mem_knownPairs {c : Char} (h : (escapeChar c).head? = some '\\') :
    escapeChar c ∈ knownPairs := by
  unfold escapeChar at h ⊢
  split_ifs at h ⊢ with hs hr hn
  · simp [knownPairs]
  · simp [knownPairs]
  · simp [knownPairs]
  · simp [hs] at h

theorem wellEscaped_escape (t : Text) : WellEscaped (escape t) := by
  obtain ⟨hn, hr⟩ := escape_oneLine t
  refine ⟨hr, hn, fun piece hpiece hs => ?_⟩
  rw [scan_escape, List.mem_map] at hpiece
  obtain ⟨c, -, rfl⟩ := hpiece
  exact escapeChar_mem_knownPairs hs

/-! ## What is read -/

/-- A known pair is read as the character that is written so. -/
theorem escape_unescape_pair {d : Char} (h : ['\\', d] ∈ knownPairs) (t : Text) :
    escape (unescape ('\\' :: d :: t)) = '\\' :: d :: escape (unescape t) := by
  rcases pair_mem_knownPairs.1 h with rfl | rfl | rfl
  · rfl
  · rfl
  · rfl

theorem escape_unescape_cons {c : Char} (hs : c ≠ '\\') (hr : c ≠ '\r') (hn : c ≠ '\n')
    (t : Text) : escape (unescape (c :: t)) = c :: escape (unescape t) := by
  rw [unescape_cons hs, escape_cons, escapeChar, if_neg hs, if_neg hr, if_neg hn]
  rfl

/-- A well escaped text comes back. -/
theorem WellEscaped.escape_unescape {s : Text} (h : WellEscaped s) : escape (unescape s) = s := by
  obtain ⟨hr, hn, hpairs⟩ := h
  induction s using scan_induction with
  | nil => rfl
  | lone => exact absurd (hpairs ['\\'] (by simp [scan]) rfl) (by decide)
  | pair d t ih =>
    rw [scan, List.forall_mem_cons] at hpairs
    simp only [List.mem_cons, not_or] at hr hn
    rw [escape_unescape_pair (hpairs.1 rfl), ih hr.2.2 hn.2.2 hpairs.2]
  | char c t hs ih =>
    rw [scan_cons hs, List.forall_mem_cons] at hpairs
    simp only [List.mem_cons, not_or] at hr hn
    rw [escape_unescape_cons hs (Ne.symm hr.1) (Ne.symm hn.1), ih hr.2 hn.2 hpairs.2]

/-- **The texts that come back are the well escaped ones.** -/
theorem escape_unescape_iff (s : Text) : escape (unescape s) = s ↔ WellEscaped s := by
  constructor
  · intro h
    rw [← h]
    exact wellEscaped_escape (unescape s)
  · exact WellEscaped.escape_unescape

/-- The texts that are written are the well escaped ones. -/
theorem wellEscaped_iff (s : Text) : WellEscaped s ↔ ∃ t, escape t = s := by
  constructor
  · intro h
    exact ⟨unescape s, h.escape_unescape⟩
  · rintro ⟨t, rfl⟩
    exact wellEscaped_escape t

/-! ## One text after the other -/

/-- A pair that is not known is kept. -/
theorem unescape_unknown {d : Char} (h : ['\\', d] ∉ knownPairs) (t : Text) :
    unescape ('\\' :: d :: t) = '\\' :: d :: unescape t := by
  rw [pair_mem_knownPairs, not_or, not_or] at h
  obtain ⟨hs, hr, hn⟩ := h
  rw [unescape, unescape_cons hs]
  · rintro rest - ht
    exact hn (List.cons.inj ht).1
  · rintro rest - ht
    exact hr (List.cons.inj ht).1
  · rintro rest - ht
    exact hs (List.cons.inj ht).1

/-- A pair is read alone, whether it is known or not. -/
theorem unescape_pair (d : Char) (t : Text) :
    unescape ('\\' :: d :: t) = unescape ['\\', d] ++ unescape t := by
  by_cases h : ['\\', d] ∈ knownPairs
  · rcases pair_mem_knownPairs.1 h with rfl | rfl | rfl
    · rfl
    · rfl
    · rfl
  · rw [unescape_unknown h, unescape_unknown h]
    rfl

/-- **What follows a text is read as if it stood alone**, unless the text ends
    within a pair. -/
theorem unescape_append {a : Text} (h : ¬ EndsOpen a) (b : Text) :
    unescape (a ++ b) = unescape a ++ unescape b := by
  induction a using scan_induction with
  | nil => rfl
  | lone => exact absurd rfl h
  | pair d t ih =>
    rw [endsOpen_pair] at h
    rw [List.cons_append, List.cons_append, unescape_pair, ih h, unescape_pair d t,
      List.append_assoc]
  | char c t hs ih =>
    rw [endsOpen_cons hs] at h
    rw [List.cons_append, unescape_cons hs, unescape_cons hs, ih h, List.cons_append]

/-- The last backslash of a text that ends within a pair stands behind a text that
    does not. -/
theorem EndsOpen.exists_front {a : Text} (h : EndsOpen a) :
    ∃ front, a = front ++ ['\\'] ∧ ¬ EndsOpen front := by
  induction a using scan_induction with
  | nil => cases h
  | lone => exact ⟨[], rfl, by decide⟩
  | pair d t ih =>
    obtain ⟨front, rfl, hfront⟩ := ih ((endsOpen_pair d t).1 h)
    refine ⟨'\\' :: d :: front, rfl, ?_⟩
    rwa [endsOpen_pair]
  | char c t hs ih =>
    obtain ⟨front, rfl, hfront⟩ := ih ((endsOpen_cons hs t).1 h)
    refine ⟨c :: front, rfl, ?_⟩
    rwa [endsOpen_cons hs]

/-- That backslash is read with what follows the text. -/
theorem EndsOpen.unescape_append {a : Text} (h : EndsOpen a) :
    ∃ front, a = front ++ ['\\'] ∧
      ∀ b, unescape (a ++ b) = unescape front ++ unescape ('\\' :: b) := by
  obtain ⟨front, rfl, hfront⟩ := h.exists_front
  refine ⟨front, rfl, fun b => ?_⟩
  rw [List.append_assoc, Gateway.unescape_append hfront, List.singleton_append]

/-- **Writing and reading are inverse exactly on what is written.**  A written text
    has no line break and is read back.  A text that is read comes back when it is
    written again iff it has no line break and, from its left, every backslash starts
    a known pair; these are the texts that are written.  Texts one after the other
    are read one after the other, unless the first one ends on a backslash without
    its character; that backslash is read with the text that follows. -/
theorem escaping_inverse :
    (∀ t, unescape (escape t) = t ∧ '\r' ∉ escape t ∧ '\n' ∉ escape t) ∧
    (∀ s, (escape (unescape s) = s ↔ WellEscaped s) ∧ (WellEscaped s ↔ ∃ t, escape t = s)) ∧
    (∀ a b, ¬ EndsOpen a → unescape (a ++ b) = unescape a ++ unescape b) ∧
    ∀ a, EndsOpen a → ∃ front, a = front ++ ['\\'] ∧
      ∀ b, unescape (a ++ b) = unescape front ++ unescape ('\\' :: b) := by
  refine ⟨fun t => ?_, fun s => ?_, fun a b h => ?_, fun a h => ?_⟩
  · obtain ⟨hn, hr⟩ := escape_oneLine t
    exact ⟨unescape_escape t, hr, hn⟩
  · exact ⟨escape_unescape_iff s, wellEscaped_iff s⟩
  · exact unescape_append h b
  · exact h.unescape_append

/-- Two backslashes are a pair; a third one is read with what follows it, and then
    the two texts are not read one after the other. -/
theorem threeBackslashes_inverse :
    ¬ EndsOpen ['\\', '\\'] ∧
    unescape (['\\', '\\'] ++ ['n']) = unescape ['\\', '\\'] ++ unescape ['n'] ∧
    EndsOpen ['\\', '\\', '\\'] ∧
    (∃ front, ['\\', '\\', '\\'] = front ++ ['\\'] ∧
      ∀ b, unescape (['\\', '\\', '\\'] ++ b) = unescape front ++ unescape ('\\' :: b)) ∧
    unescape (['\\', '\\', '\\'] ++ ['n']) ≠ unescape ['\\', '\\', '\\'] ++ unescape ['n'] := by
  obtain ⟨-, -, hclosed, hopen⟩ := escaping_inverse
  have htwo : ¬ EndsOpen ['\\', '\\'] := by decide
  have hthree : EndsOpen ['\\', '\\', '\\'] := by decide
  exact ⟨htwo, hclosed _ ['n'] htwo, hthree, hopen _ hthree, by decide⟩

end Runpad.Gateway
