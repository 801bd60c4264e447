/-
  Settings as a map with an order.

  * `get?_set`: putting a value under a key changes what is under that key, and
    nothing else; `LastUnder` and `get?_setAll_of_last`: of many values under a key the
    last one stays;
  * `Ordered` says that the keys increase; `Ordered.setAll`: they do however often
    values are put;
  * `Ordered.mem_entries_iff`: in this case the entries are what can be looked up, and
    settings that agree on every key have the same entries (`Ordered.entries_eq`).
-/
import Mathlib
import Runpad.Settings

namespace Runpad.Settings

variable {entries : List (Text × Text)} {key value : Text} {s s' : Settings}

/-! ## Looking up -/

theorem get?_cons (entry : Text × Text) (entries : List (Text × Text)) (key : Text) :
    get? ⟨entry :: entries⟩ key = if entry.1 = key then some entry.2 else get? ⟨entries⟩ key := by
  unfold get?
  by_cases h : entry.1 = key <;> simp [h]

theorem get?_insert (key value other : Text) (entries : List (Text × Text)) :
    get? ⟨insert key value entries⟩ other =
      if key = other then some value else get? ⟨entries⟩ other := by
  induction entries with
  | nil => rw [insert, get?_cons]
  | cons entry rest ih =>
    obtain ⟨head, old⟩ := entry
    unfold insert
    split
    · next hsame =>
      subst hsame
      rw [get?_cons, get?_cons]
      split_ifs <;> rfl
    · next hsame =>
      split
      · rw [get?_cons]
      · -- The new entry stands somewhere behind the first one, which has another key.
        rw [get?_cons, get?_cons, ih]
        split_ifs with hhead hother
        · exact absurd (hother.trans hhead.symm) hsame
        all_goals rfl

/-- **A value that was put is found under its key**, and all other keys keep theirs. -/
theorem get?_set (key value : Text) (s : Settings) (other : Text) :
    (s.set key value).get? other = if key = other then some value else s.get? other :=
  get?_insert key value other s.entries

/-! ## Many values -/

@[simp] theorem setAll_nil (s : Settings) : s.setAll [] = s := rfl

@[simp] theorem setAll_cons (entry : Text × Text) (entries : List (Text × Text)) (s : Settings) :
    s.setAll (entry :: entries) = (s.set entry.1 entry.2).setAll entries := rfl

theorem setAll_append (entries later : List (Text × Text)) (s : Settings) :
    s.setAll (entries ++ later) = (s.setAll entries).setAll later :=
  List.foldl_append

/-- The value of the last entry with this key. -/
def LastUnder (entries : List (Text × Text)) (key value : Text) : Prop :=
  ∃ before after, entries = before ++ (key, value) :: after ∧ ∀ entry ∈ after, entry.1 ≠ key

theorem LastUnder.mem (h : LastUnder entries key value) : (key, value) ∈ entries := by
  obtain ⟨before, after, rfl, -⟩ := h
  simp

/-- Among entries with the key there is a last one. -/
theorem exists_lastUnder (h : ∃ entry ∈ entries, entry.1 = key) :
    ∃ value, LastUnder entries key value := by
  induction entries with
  | nil => simp at h
  | cons entry rest ih =>
    by_cases hrest : ∃ entry ∈ rest, entry.1 = key
    · obtain ⟨value, before, after, rfl, hafter⟩ := ih hrest
      exact ⟨value, entry :: before, after, rfl, hafter⟩
    · obtain rfl : entry.1 = key := by simpa [hrest] using h
      push Not at hrest
      exact ⟨entry.2, [], rest, rfl, hrest⟩

theorem get?_setAll_of_absent (h : ∀ entry ∈ entries, entry.1 ≠ key) (s : Settings) :
    (s.setAll entries).get? key = s.get? key := by
  induction entries generalizing s with
  | nil => rfl
  | cons entry rest ih =>
    rw [List.forall_mem_cons] at h
    rw [setAll_cons, ih h.2, get?_set, if_neg h.1]

/-- **The last of the values that were put under a key stays.** -/
theorem get?_setAll_of_last (h : LastUnder entries key value) (s : Settings) :
    (s.setAll entries).get? key = some value := by
  obtain ⟨before, after, rfl, hafter⟩ := h
  rw [setAll_append, setAll_cons, get?_setAll_of_absent hafter, get?_set, if_pos rfl]

/-! ## The order of the keys -/

/-- The keys increase. -/
def Ordered (s : Settings) : Prop :=
  s.entries.Pairwise (·.1 < ·.1)

theorem ordered_empty : Ordered {} := List.Pairwise.nil

theorem mem_insert {entry : Text × Text} (h : entry ∈ insert key value entries) :
    entry = (key, value) ∨ entry ∈ entries := by
  induction entries with
  | nil => simpa [insert] using h
  | cons head rest ih =>
    rw [insert] at h
    split_ifs at h
    · exact (List.mem_cons.1 h).imp id (List.mem_cons_of_mem _)
    · exact List.mem_cons.1 h
    · rcases List.mem_cons.1 h with rfl | h
      · exact Or.inr List.mem_cons_self
      · exact (ih h).imp id (List.mem_cons_of_mem _)

theorem pairwise_insert (h : entries.Pairwise (·.1 < ·.1)) :
    (insert key value entries).Pairwise (·.1 < ·.1) := by
  induction entries with
  | nil => exact List.pairwise_singleton _ _
  | cons head rest ih =>
    obtain ⟨hhead, hrest⟩ := List.pairwise_cons.1 h
    rw [insert]
    split_ifs with hsame hless
    · subst hsame
      exact List.pairwise_cons.2 ⟨hhead, hrest⟩
    · refine List.pairwise_cons.2 ⟨fun entry hentry => ?_, h⟩
      rcases List.mem_cons.1 hentry with rfl | hentry
      · exact hless
      · exact lt_trans hless (hhead entry hentry)
    · refine List.pairwise_cons.2 ⟨fun entry hentry => ?_, ih hrest⟩
      -- The new entry stands behind the first one, as its key is greater.
      rcases mem_insert hentry with rfl | hentry
      · exact lt_of_le_of_ne (not_lt.1 hless) (Ne.symm hsame)
      · exact hhead entry hentry

theorem Ordered.setAll (h : s.Ordered) (entries : List (Text × Text)) :
    (s.setAll entries).Ordered := by
  induction entries generalizing s with
  | nil => exact h
  | cons entry rest ih => exact ih (s := s.set entry.1 entry.2) (pairwise_insert h)

/-! ## Entries -/

theorem mem_of_get? (h : s.get? key = some value) : (key, value) ∈ s.entries := by
  obtain ⟨entry, hfind, rfl⟩ := Option.map_eq_some_iff.1 h
  obtain rfl : entry.1 = key := by simpa using List.find?_some hfind
  exact List.mem_of_find?_eq_some hfind

/-- **The entries are what can be looked up.** -/
theorem Ordered.mem_entries_iff (h : s.Ordered) :
    (key, value) ∈ s.entries ↔ s.get? key = some value := by
  refine ⟨fun hmem => ?_, mem_of_get?⟩
  obtain ⟨entries⟩ := s
  induction entries with
  | nil => cases hmem
  | cons entry rest ih =>
    obtain ⟨hless, hrest⟩ := List.pairwise_cons.1 h
    rw [get?_cons]
    rcases List.mem_cons.1 hmem with rfl | hmem
    · rw [if_pos rfl]
    · rw [if_neg (hless _ hmem).ne, ih hrest hmem]

/-- **Settings that agree on every key have the same entries.** -/
theorem Ordered.entries_eq (h : s.Ordered) (h' : s'.Ordered)
    (hget : ∀ key, s.get? key = s'.get? key) : s.entries = s'.entries := by
  have hmem : ∀ entry, entry ∈ s.entries ↔ entry ∈ s'.entries := by
    rintro ⟨key, value⟩
    rw [h.mem_entries_iff, h'.mem_entries_iff, hget]
  have hnodup : ∀ {s : Settings}, s.Ordered → s.entries.Nodup := fun ho =>
    ho.imp fun hlt heq => hlt.ne (congrArg Prod.fst heq)
  have hperm := (List.perm_ext_iff_of_nodup (hnodup h) (hnodup h')).2 hmem
  exact hperm.eq_of_pairwise (fun _ _ _ _ hlt hgt => absurd hgt hlt.asymm) h h'

end Runpad.Settings
