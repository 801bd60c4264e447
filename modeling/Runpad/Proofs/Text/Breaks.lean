/-
  Line breaks written as line feeds.

  * `replacePairs` writes a line feed for every carriage return with its line feed;
    `unifyBreaks_eq`: breaks are unified by this and then by a line feed for every
    carriage return that is left, so none is left at all (`return_notMem`);
  * `Straddles` says that a break lies across two texts; `unifyBreaks_append`: all
    other breaks are unified on their own, and `unifyBreaks_straddling`: this one
    becomes two if the texts are unified apart.
-/
import Mathlib
import Runpad.Text.Lines

namespace Runpad.Text

/-- The text with a line feed for each carriage return that has one behind it. -/
def replacePairs : Text → Text
  | '\r' :: '\n' :: rest => '\n' :: replacePairs rest
  | c :: rest => c :: replacePairs rest
  | [] => []

/-- **Breaks are unified in two passes**: first the pairs, then what is left. -/
theorem unifyBreaks_eq (t : Text) :
    unifyBreaks t = (replacePairs t).map fun c => if c = '\r' then '\n' else c := by
  induction t using unifyBreaks.induct with
  | case1 rest ih => simp [unifyBreaks, replacePairs, ih]
  | case2 c rest hpair ih =>
    rw [unifyBreaks, replacePairs, ih]
    · rfl
    · exact hpair
    · exact hpair
  | case3 => rfl

theorem return_notMem (t : Text) : '\r' ∉ unifyBreaks t := by
  rw [unifyBreaks_eq, List.mem_map]
  rintro ⟨c, -, hc⟩
  split at hc
  · cases hc
  · contradiction

theorem unifyBreaks_eq_nil_iff {t : Text} : unifyBreaks t = [] ↔ t = [] := by
  induction t using unifyBreaks.induct with
  | case1 rest => simp [unifyBreaks]
  | case2 c rest hpair =>
    rw [unifyBreaks]
    · simp
    · exact hpair
  | case3 => simp [unifyBreaks]

/-- The first text ends in the carriage return of a break, and the second one starts with
    its line feed. -/
structure Straddles (a b : Text) : Prop where
  ends : a.getLast? = some '\r'
  starts : b.head? = some '\n'

theorem Straddles.cons {a b : Text} (h : Straddles a b) (c : Char) : Straddles (c :: a) b where
  ends := by rw [List.getLast?_cons, h.ends]; rfl
  starts := h.starts

/-- A character that starts no pair is unified on its own. -/
theorem unifyBreaks_cons {c : Char} {t : Text} (h : ¬ (c = '\r' ∧ t.head? = some '\n')) :
    unifyBreaks (c :: t) = (if c = '\r' then '\n' else c) :: unifyBreaks t := by
  rw [unifyBreaks]
  rintro rest rfl rfl
  exact h ⟨rfl, rfl⟩

theorem unifyBreaks_append {a b : Text} (h : ¬ Straddles a b) :
    unifyBreaks (a ++ b) = unifyBreaks a ++ unifyBreaks b := by
  induction a using unifyBreaks.induct with
  | case1 rest ih =>
    have hrest : ¬ Straddles rest b := fun hs => h ((hs.cons '\n').cons '\r')
    simp [unifyBreaks, ih hrest]
  | case2 c rest hpair ih =>
    have hrest : ¬ Straddles rest b := fun hs => h (hs.cons c)
    -- behind `c` nothing of the second text makes a pair either
    have hself : ¬ (c = '\r' ∧ rest.head? = some '\n') := by
      rintro ⟨rfl, hhead⟩
      obtain ⟨more, rfl⟩ := List.head?_eq_some_iff.1 hhead
      exact hpair more rfl rfl
    have hfirst : ¬ (c = '\r' ∧ (rest ++ b).head? = some '\n') := by
      rintro ⟨rfl, hhead⟩
      cases rest with
      | nil => exact h ⟨rfl, hhead⟩
      | cons d rest => exact hself ⟨rfl, hhead⟩
    rw [List.cons_append, unifyBreaks_cons hfirst, unifyBreaks_cons hself, ih hrest,
      List.cons_append]
  | case3 => rfl

/-- **A break that lies across two texts is one break of the whole**, but two breaks of
    the parts. -/
theorem unifyBreaks_straddling {a b : Text} (h : Straddles a b) :
    ∃ rest, unifyBreaks b = '\n' :: rest ∧ unifyBreaks (a ++ b) = unifyBreaks a ++ rest := by
  obtain ⟨first, rfl⟩ := List.getLast?_eq_some_iff.1 h.ends
  obtain ⟨later, rfl⟩ := List.head?_eq_some_iff.1 h.starts
  have hwhole : ¬ Straddles first ('\r' :: '\n' :: later) := fun hs => by cases hs.starts
  have hpart : ¬ Straddles first ['\r'] := fun hs => by cases hs.starts
  refine ⟨unifyBreaks later, rfl, ?_⟩
  rw [List.append_assoc, List.singleton_append, unifyBreaks_append hwhole,
    unifyBreaks_append hpart, List.append_assoc]
  rfl

end Runpad.Text
