/-
  The columns of a text and those of its characters.

  A text is measured as a whole, but cut by its characters.

  * `charsColumns` are the columns of the characters one by one; only some
    characters (`stretches`) add more to a text than that;
  * `measure_le`: one character adds no more, but the emoji selector and the flags
    behind a joiner take columns in advance (`Follow.credit`); `columns_le`: so it is
    for a text;
  * `columns_truncate_le`: hence a cut text takes its room, and at most one column more
    for each of these characters;
  * in texts of `Plain` characters the columns add up, and so do those of the clusters
    (`drawnColumns_plain`).
-/
import Mathlib
import Runpad.Screen.Strip
import Runpad.Text.Truncate

namespace Runpad.Text

open Property

/-! ## Characters one by one -/

/-- The columns of the characters of a text, each counted by itself. -/
def charsColumns (t : Text) : Nat :=
  (t.map charColumns).sum

@[simp] theorem charsColumns_cons (c : Char) (t : Text) :
    charsColumns (c :: t) = charColumns c + charsColumns t := rfl

@[simp] theorem charsColumns_append (a b : Text) :
    charsColumns (a ++ b) = charsColumns a + charsColumns b := by
  simp [charsColumns]

/-- The characters with no columns of their own. -/
def isControl (c : Char) : Bool :=
  c.toNat < 0x20 || inside 0x7F 0x9F c

/-- The characters that can make a text wider than its characters are one by one:
    controls, but for the line feed, and the selector for emoji. -/
def stretches (c : Char) : Bool :=
  isControl c && c ≠ '\n' || c = '\uFE0F'

theorem charColumns_of_high {c : Char} (h : 0xA0 < c.toNat) : charColumns c = alone c := by
  have hcontrol : (c.toNat < 0x20 || inside 0x7F 0x9F c) = false := by
    simp [inside]; omega
  have hlow : ¬ c.toNat ≤ 0xA0 := by omega
  simp [charColumns, hcontrol, columns, measureAll, measure, hlow, Follow.none]

theorem charColumns_of_low {c : Char} (h : c.toNat ≤ 0xA0) :
    charColumns c = if isControl c then 0 else 1 := by
  unfold charColumns
  by_cases hc : isControl c = true
  · exact (if_pos hc).trans (if_pos hc).symm
  · have hn : c ≠ '\n' := by rintro rfl; exact hc (by decide)
    have hr : c ≠ '\r' := by rintro rfl; exact hc (by decide)
    refine (if_neg hc).trans (Eq.trans ?_ (if_neg hc).symm)
    simp [columns, measureAll, measure, h, hn, hr, Follow.none]

/-! ## Characters that take a column -/

namespace Ranges

/-- No code point lies in ranges of both lists: the ranges of the second one before a
    range of the first one are passed by, and the next one comes after it. -/
def apart : Ranges → Ranges → Bool
  | [], _ => true
  | p :: a, b =>
    let later := b.dropWhile fun q => q.2 < p.1
    later.head?.all (fun q => p.2 < q.1) && apart a later

theorem covers_dropWhile {code lo : Nat} (hlo : lo ≤ code) {r : Ranges}
    (h : r.covers code = true) : covers code (r.dropWhile fun q => q.2 < lo) = true := by
  induction r with
  | nil => cases h
  | cons q rest ih =>
    rw [List.dropWhile_cons]
    split_ifs with hq
    · rw [covers] at h
      split_ifs at h with hbefore
      have hpast : ¬ code ≤ q.2 := by
        have := of_decide_eq_true hq
        omega
      exact ih (by simpa [hpast] using h)
    · exact h

theorem covers_of_apart {code : Nat} {a b : Ranges} (h : a.apart b = true)
    (ha : a.covers code = true) : b.covers code = false := by
  induction a generalizing b with
  | nil => cases ha
  | cons p a ih =>
    rw [apart, Bool.and_eq_true] at h
    obtain ⟨hnext, hrest⟩ := h
    rw [covers] at ha
    split_ifs at ha with hlo
    by_contra hb
    -- what is passed by lies before `p`, and what is left starts behind it
    have hlater := covers_dropWhile (Nat.le_of_not_lt hlo) (Bool.eq_true_of_not_eq_false hb)
    rcases (Bool.or_eq_true _ _).mp ha with hhi | ha
    · revert hnext hlater
      cases b.dropWhile fun q => q.2 < p.1 with
      | nil => exact fun _ hlater => by cases hlater
      | cons q later =>
        intro hnext hlater
        have hq : code < q.1 :=
          Nat.lt_of_le_of_lt (of_decide_eq_true hhi) (of_decide_eq_true hnext)
        rw [covers, if_pos hq] at hlater
        cases hlater
    · rw [ih hrest ha] at hlater
      cases hlater

end Ranges

theorem one_le_alone {c : Char} (h : isColumnless c = false) : 1 ≤ alone c := by
  rw [alone, if_neg (by simp [h])]
  split_ifs <;> omega

theorem one_le_alone_of_apart {r : Ranges} (hextending : r.apart extending = true)
    (hother : r.apart columnlessOther = true) {c : Char} (h : r.holds c = true) :
    1 ≤ alone c := by
  have h1 : extending.holds c = false := Ranges.covers_of_apart hextending h
  have h2 : columnlessOther.holds c = false := Ranges.covers_of_apart hother h
  apply one_le_alone
  rw [isColumnless, isExtending, h1, h2]
  rfl

theorem one_le_alone_selectable {c : Char} (h : selectable.holds c = true) : 1 ≤ alone c :=
  one_le_alone_of_apart (by decide +kernel) (by decide +kernel) h

theorem one_le_charColumns_selectable {c : Char} (h : selectable.holds c = true) :
    1 ≤ charColumns c := by
  by_cases hlow : c.toNat ≤ 0xA0
  · have hcontrol : isControl c = false := by
      have hapart : Ranges.covers c.toNat [(0, 0x1F), (0x7F, 0x9F)] = false :=
        Ranges.covers_of_apart (a := selectable) (by decide +kernel) h
      simp [Ranges.covers] at hapart
      simp [isControl, inside]
      omega
    rw [charColumns_of_low hlow, hcontrol]
    rfl
  · rw [charColumns_of_high (Nat.lt_of_not_le hlow)]
    exact one_le_alone_selectable h

theorem one_le_alone_flagHalf {c : Char} (h : isFlagHalf c = true) : 1 ≤ alone c := by
  apply one_le_alone_of_apart (r := [(0x1F1E6, 0x1F1FF)]) (by decide +kernel) (by decide +kernel)
  simp_all [isFlagHalf, inside, Ranges.holds, Ranges.covers]

/-- Two signs that combine with what follows and yet add a column, one of Tifinagh and
    one of Kirat Rai. -/
theorem one_le_alone_sign {c : Char} (h : c.toNat = 0x2D7F ∨ c.toNat = 0x16D68) :
    1 ≤ alone c := by
  have hc : c = Char.ofNat 0x2D7F ∨ c = Char.ofNat 0x16D68 := by
    rcases h with h | h
    · exact .inl (by rw [← h, Char.ofNat_toNat])
    · exact .inr (by rw [← h, Char.ofNat_toNat])
  rcases hc with rfl | rfl <;> decide +kernel

/-! ## What a character adds -/

/-- Columns that may still be added without a character that has them: a half of a flag
    before an even number of them takes three. -/
def Opening.credit : Opening → Int
  | .joinedFlagsEven => 2
  | _ => 0

/-- The same for all that follows: a selector gives its character a second column. -/
def Follow.credit (f : Follow) : Int :=
  f.opening.credit + f.asEmoji.toNat

theorem Opening.credit_nonneg (o : Opening) : 0 ≤ o.credit := by
  cases o <;> simp [Opening.credit]

theorem Follow.credit_nonneg (f : Follow) : 0 ≤ f.credit :=
  Int.add_nonneg f.opening.credit_nonneg (Int.natCast_nonneg _)

section Combined

variable {o o' : Opening} {c : Char} {n : Int}

/-- Most characters that combine with what follows add no column. -/
theorem le_of_free (hn : n ≤ 0) (ho : o'.credit = 0) :
    n + o'.credit ≤ alone c + o.credit := by
  have := o.credit_nonneg
  omega

theorem le_of_column (hn : n ≤ 1) (ho : o'.credit = 0) (hc : 1 ≤ alone c) :
    n + o'.credit ≤ alone c + o.credit := by
  have := o.credit_nonneg
  omega

/-- Two halves of a flag behind a joined emoji take the columns of the first one back,
    and a third one takes three. -/
theorem joined_le (h : combine.joined o c = some (n, o')) :
    n + o'.credit ≤ alone c + o.credit := by
  cases o with
  | joinedFlagsEven | joinedFlagsOdd =>
    simp only [combine.joined] at h
    split_ifs at h with hjoiner hflag <;> cases h
    · exact le_of_free le_rfl rfl
    · have := one_le_alone_flagHalf hflag
      simp only [Opening.credit]
      omega
  | joinedFlagHalf =>
    simp only [combine.joined] at h
    split_ifs at h with hflag
    cases h
    have := one_le_alone_flagHalf hflag
    simp only [Opening.credit]
    omega
  | joinedEmoji =>
    simp only [combine.joined] at h
    split_ifs at h with hkeycap hflag <;> cases h
    · exact le_of_free le_rfl rfl
    · exact le_of_column le_rfl rfl (one_le_alone_flagHalf hflag)
    all_goals exact le_of_free le_rfl rfl
  | emoji | tagLetters | tagDigits =>
    simp only [combine.joined] at h
    split_ifs at h <;> cases h <;> exact le_of_free le_rfl rfl
  | _ => cases h

theorem combine_le (h : combine o c = some (n, o')) :
    n + o'.credit ≤ alone c + o.credit := by
  unfold combine at h
  split at h
  all_goals try exact joined_le h
  -- what is left adds a column at most, and then it has one of its own
  all_goals try dsimp only at h
  all_goals try split_ifs at h
  all_goals cases h
  all_goals first
    | exact le_of_free (by decide) rfl
    | exact le_of_column le_rfl rfl (one_le_alone_flagHalf ‹_›)
    | exact le_of_column le_rfl rfl (one_le_alone_sign (.inl ‹_›))
    | exact le_of_column le_rfl rfl (one_le_alone_sign (.inr ‹_›))

end Combined

/-- The column that a character may add besides its own. -/
def extra (c : Char) : Nat :=
  if stretches c then 1 else 0

theorem credit_opening (c : Char) : (beginning.opening c).credit = 0 := by
  simp only [beginning.opening, apply_ite Opening.credit]
  simp only [Opening.credit, ite_self]

theorem credit_beginning (c : Char) : (beginning c).credit ≤ extra c := by
  by_cases hemoji : c = '\uFE0F'
  · subst hemoji
    decide
  · rw [beginning, if_neg hemoji]
    split_ifs
    · exact Int.natCast_nonneg _
    · simp [Follow.credit, credit_opening]

theorem credit_selectEmoji (f : Follow) : f.selectEmoji.credit ≤ f.credit + 1 := by
  have hcredit := f.credit_nonneg
  unfold Follow.selectEmoji
  split_ifs
  · simp only [Follow.credit, Bool.toNat_true]
    omega
  · exact Int.le_add_of_nonneg_left hcredit

theorem credit_selectText (f : Follow) : f.selectText.credit ≤ f.credit := by
  unfold Follow.selectText
  split_ifs
  · exact le_rfl
  · exact f.credit_nonneg

theorem credit_dropEmoji (f : Follow) : f.dropEmoji.credit ≤ f.credit := by
  unfold Follow.dropEmoji
  split_ifs
  · simp only [Follow.credit, Bool.toNat_false]
    omega
  · exact f.credit_nonneg

theorem credit_join (o : Opening) : o.join.credit = o.credit := by
  cases o <;> rfl

theorem measureSpecial_le (c : Char) (f : Follow) :
    (measureSpecial c f).1 + (measureSpecial c f).2.credit ≤ alone c + extra c + f.credit := by
  have hcredit := f.credit_nonneg
  have hopening : f.opening.credit ≤ f.credit := by simp [Follow.credit]
  unfold measureSpecial
  split_ifs with hemoji htext hnarrow
  · subst hemoji
    have := credit_selectEmoji f
    have hextra : extra '\uFE0F' = 1 := by decide
    simp only [hextra]
    omega
  · have := credit_selectText f
    simp only
    omega
  · have hselectable : selectable.holds c = true := by
      simp only [takesNarrowing, Bool.and_eq_true] at hnarrow
      exact hnarrow.2.1.1
    have := one_le_alone_selectable hselectable
    have hnone : Follow.none.credit = 0 := rfl
    simp only [hnone]
    omega
  extract_lets next
  have hnext : next.credit = f.credit := rfl
  split_ifs with hjoin hmark
  · have hsame : ({ next with opening := next.opening.join } : Follow).credit = next.credit := by
      simp only [Follow.credit, credit_join]
    simp only [hsame]
    omega
  · simp only
    omega
  · split
    next n o h =>
      have := combine_le h
      simp only [Follow.credit, Bool.toNat_false]
      simp only [next] at this
      omega
    next =>
      have := credit_beginning c
      simp only
      omega

theorem measure_le (c : Char) (f : Follow) :
    (measure c f).1 + (measure c f).2.credit ≤ charColumns c + extra c + f.credit := by
  have hcredit := f.credit_nonneg
  unfold measure
  by_cases hselect : (f.asEmoji && takesSelector c) = true
  · rw [if_pos hselect]
    rw [Bool.and_eq_true] at hselect
    have hcolumn : 1 ≤ charColumns c := one_le_charColumns_selectable hselect.2
    -- the selector has paid for the second column
    have hemoji : 1 ≤ f.credit := by
      have := f.opening.credit_nonneg
      simp only [Follow.credit, hselect.1, Bool.toNat_true]
      omega
    have hnone : (⟨.emoji, false, false⟩ : Follow).credit = 0 := rfl
    simp only [hnone]
    split_ifs <;> omega
  rw [if_neg hselect]
  extract_lets next
  have hnext : next.credit ≤ f.credit := by
    simp only [next]
    split_ifs
    · exact credit_dropEmoji f
    · exact le_rfl
  split_ifs with hlow hfeed hreturn hplain
  · exact Int.add_nonneg (Int.natCast_nonneg _) hcredit
  · exact Int.add_nonneg (Int.natCast_nonneg _) hcredit
  · have hone : 1 ≤ charColumns c + extra c := by
      rw [charColumns_of_low hlow, extra, stretches]
      by_cases hcontrol : isControl c = true <;> simp [hcontrol, hfeed]
    have hnone : Follow.none.credit = 0 := rfl
    simp only [hnone]
    omega
  · have := credit_beginning c
    rw [charColumns_of_high (Nat.lt_of_not_le hlow)]
    simp only
    omega
  · have := measureSpecial_le c next
    rw [charColumns_of_high (Nat.lt_of_not_le hlow)]
    omega

theorem measureAll_cons (c : Char) (t : Text) :
    measureAll (c :: t) =
      ((measureAll t).1 + (measure c (measureAll t).2).1, (measure c (measureAll t).2).2) := rfl

/-- The credit pays for every column that no character has. -/
theorem measureAll_le (t : Text) :
    (measureAll t).1 + (measureAll t).2.credit ≤ charsColumns t + t.countP stretches := by
  induction t with
  | nil => exact le_rfl
  | cons c t ih =>
    have hstep := measure_le c (measureAll t).2
    rw [measureAll_cons, charsColumns_cons, List.countP_cons]
    simp only [extra] at hstep
    push_cast at hstep ⊢
    omega

/-- **A text takes no more columns than its characters do one by one**, but for one more
    for each of those that stretch it. -/
theorem columns_le (t : Text) : columns t ≤ charsColumns t + t.countP stretches := by
  have hall := measureAll_le t
  have hcredit := (measureAll t).2.credit_nonneg
  rw [columns]
  omega

/-! ## Cut texts -/

theorem truncate_of_lt {room : Nat} {t : Text} (h : room < columns t) :
    truncate room t = fitting (room - 1) t ++ if room = 0 then [] else [ellipsis] :=
  if_neg (Nat.not_le_of_lt h)

theorem charsColumns_fitting (room : Nat) (t : Text) : charsColumns (fitting room t) ≤ room := by
  induction t generalizing room with
  | nil => exact Nat.zero_le room
  | cons c rest ih =>
    rw [fitting]
    split_ifs with hc
    · have := ih (room - charColumns c)
      rw [charsColumns_cons]
      omega
    · exact Nat.zero_le room

/-- **A cut text takes its room**, and at most one column more for each character in it
    that stretches it. -/
theorem columns_truncate_le (room : Nat) (t : Text) :
    columns (truncate room t) ≤ room + (truncate room t).countP stretches := by
  by_cases h : columns t ≤ room
  · rw [truncate_of_le h]
    omega
  · have hchars : charsColumns (truncate room t) ≤ room := by
      have hkept := charsColumns_fitting (room - 1) t
      rw [truncate_of_lt (Nat.lt_of_not_le h), charsColumns_append]
      split_ifs with hroom
      · have hnone : charsColumns [] = 0 := rfl
        omega
      · have hdots : charsColumns [ellipsis] = 1 := by decide +kernel
        omega
    have := columns_le (truncate room t)
    omega

/-- What a cut text is: the whole text if that fits, and else a beginning of it and an
    ellipsis, in the room given unless it holds characters that stretch it. -/
structure Truncated (room : Nat) (t cut : Text) : Prop where
  whole : columns t ≤ room → cut = t
  part : room < columns t →
    ∃ kept, kept <+: t ∧ cut = kept ++ if room = 0 then [] else [ellipsis]
  columns_le : columns cut ≤ room + cut.countP stretches
  columns_le_room : (∀ c ∈ cut, stretches c = false) → columns cut ≤ room

theorem truncated (room : Nat) (t : Text) : Truncated room t (truncate room t) where
  whole := truncate_of_le
  part h := ⟨fitting (room - 1) t, fitting_prefix _ t, truncate_of_lt h⟩
  columns_le := columns_truncate_le room t
  columns_le_room h := by
    have hnone : (truncate room t).countP stretches = 0 := by
      rw [List.countP_eq_zero]
      intro c hc
      rw [h c hc]
      exact Bool.false_ne_true
    have hcut := columns_truncate_le room t
    rwa [hnone] at hcut

/-! ## Texts of plain characters -/

/-- The character adds its own columns and does not matter to those before it. -/
def Plain (c : Char) : Prop :=
  measure c Follow.none = ((charColumns c : Int), Follow.none)

instance (c : Char) : Decidable (Plain c) :=
  inferInstanceAs (Decidable (_ = _))

theorem columns_plain {t : Text} (h : ∀ c ∈ t, Plain c) : columns t = charsColumns t := by
  have hall : measureAll t = ((charsColumns t : Int), Follow.none) := by
    induction t with
    | nil => rfl
    | cons c t ih =>
      obtain ⟨hc, ht⟩ := List.forall_mem_cons.mp h
      rw [measureAll_cons, ih ht, hc, charsColumns_cons, Nat.cast_add, Int.add_comm]
  rw [columns, hall]
  rfl

theorem totalColumns_cons (t : Text) (parts : List Text) :
    totalColumns (t :: parts) = columns t + totalColumns parts := rfl

theorem totalColumns_append (a b : List Text) :
    totalColumns (a ++ b) = totalColumns a + totalColumns b := by
  induction a with
  | nil => simp [totalColumns]
  | cons t a ih => rw [List.cons_append, totalColumns_cons, totalColumns_cons, ih, Nat.add_assoc]

theorem totalColumns_plain {parts : List Text} (h : ∀ c ∈ parts.flatten, Plain c) :
    totalColumns parts = columns parts.flatten := by
  induction parts with
  | nil => rfl
  | cons t parts ih =>
    rw [List.flatten_cons] at h ⊢
    have ht : ∀ c ∈ t, Plain c := fun c hc => h c (List.mem_append_left _ hc)
    have hparts : ∀ c ∈ parts.flatten, Plain c := fun c hc => h c (List.mem_append_right _ hc)
    rw [totalColumns_cons, ih hparts, columns_plain h, columns_plain ht, columns_plain hparts,
      charsColumns_append]

/-- The columns of a text that is drawn, cluster by cluster. -/
def drawnColumns (t : Text) : Nat :=
  totalColumns (drawable t)

theorem drawnColumns_plain {t : Text} (h : ∀ c ∈ t, Plain c) : drawnColumns t = columns t := by
  have hdrawable : drawable t = clusters t := by
    rw [drawable, List.filter_eq_self]
    intro cluster hcluster
    rw [decide_eq_true_eq]
    rintro rfl
    have hfeed : '\n' ∈ t := by
      rw [← flatten_clusters t]
      exact List.mem_flatten.mpr ⟨_, hcluster, List.mem_singleton.mpr rfl⟩
    exact absurd (h _ hfeed) (by decide)
  rw [drawnColumns, hdrawable, totalColumns_plain (by rwa [flatten_clusters]), flatten_clusters]

end Runpad.Text
