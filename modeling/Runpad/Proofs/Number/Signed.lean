/-
  Signed numbers as texts.

  * `placeValue` is the value of digits by their places, `Figures` are one or more
    digits;
  * `Denotes` tells which texts denote a number, `IsLong` which denote one of 64
    bits; `ofSigned?_eq_some_iff` and `long?_eq_some_iff`: these texts are read;
  * `Canonical` is the text of a number with no plus sign and no leading zero;
    `canonical_iff`: each number has just one, and is written so.
-/
import Mathlib
import Runpad.Proofs.Number.Decimal

namespace Runpad.Number

/-! ## Digits by their places -/

/-- The value of digits, each ten times what it would be one place further right. -/
def placeValue (t : Text) : Nat :=
  Nat.ofDigits 10 (t.reverse.map digitValue)

/-- One or more decimal digits. -/
def Figures (t : Text) : Prop :=
  t ≠ [] ∧ ∀ c ∈ t, isDigit c = true

theorem valueOf_eq_placeValue (t : Text) : valueOf t = placeValue t := by
  induction t using List.reverseRecOn with
  | nil => rfl
  | append_singleton t c ih =>
    rw [valueOf_concat, ih, placeValue, placeValue, List.reverse_concat, List.map_cons,
      Nat.ofDigits_cons, Nat.add_comm]

theorem ofDigits?_eq_some_iff_figures {t : Text} {n : Nat} :
    ofDigits? t = some n ↔ Figures t ∧ placeValue t = n := by
  rw [ofDigits?_eq_some_iff, valueOf_eq_placeValue, Figures, and_assoc]

theorem digitValue_lt {c : Char} (h : isDigit c = true) : digitValue c < 10 := by
  obtain ⟨hlow, hhigh⟩ := toNat_of_isDigit h
  have hzero : '0'.toNat = 48 := rfl
  rw [digitValue, hzero]
  omega

theorem digitChar_digitValue {c : Char} (h : isDigit c = true) : digitChar (digitValue c) = c := by
  obtain ⟨hlow, hhigh⟩ := toNat_of_isDigit h
  have hzero : '0'.toNat = 48 := rfl
  rw [digitChar, digitValue, hzero, Nat.add_sub_cancel' hlow, Char.ofNat_toNat]

/-- Only the digit zero has no value. -/
theorem digitValue_ne_zero {c : Char} (h : isDigit c = true) (hc : c ≠ '0') : digitValue c ≠ 0 := by
  intro hv
  have hchar := digitChar_digitValue h
  rw [hv] at hchar
  exact hc hchar.symm

/-! ## Digits without leading zeros -/

/-- The digits of a number are those of its places, the last place first. -/
theorem digits_eq {n : Nat} (h : n ≠ 0) : digits n = (Nat.digits 10 n).reverse.map digitChar := by
  induction n using digits.induct with
  | case1 n hn =>
    rw [digits, if_pos hn, Nat.digits_of_lt 10 n h hn]
    rfl
  | case2 n hn ih =>
    have hq : n / 10 ≠ 0 := by omega
    rw [digits, if_neg hn, ih hq, Nat.digits_def' (by decide) (Nat.pos_of_ne_zero h),
      List.reverse_cons, List.map_append]
    rfl

/-- A number that is not zero does not start with the digit zero. -/
theorem exists_digits {n : Nat} (h : n ≠ 0) : ∃ d rest, digits n = d :: rest ∧ d ≠ '0' := by
  induction n using digits.induct with
  | case1 n hn =>
    refine ⟨digitChar n, [], by rw [digits, if_pos hn], fun hd => h ?_⟩
    rw [← digitValue_digitChar hn, hd]
    rfl
  | case2 n hn ih =>
    obtain ⟨d, rest, hdigits, hd⟩ := ih (by omega)
    refine ⟨d, rest ++ [digitChar (n % 10)], ?_, hd⟩
    rw [digits, if_neg hn, hdigits, List.cons_append]

theorem figures_digits (n : Nat) : Figures (digits n) :=
  ⟨digits_ne_nil n, fun _ hc => isDigit_of_mem_digits hc⟩

theorem placeValue_digits (n : Nat) : placeValue (digits n) = n := by
  rw [← valueOf_eq_placeValue, valueOf_digits]

/-- Its digits are figures with its value. -/
theorem exists_figures {n : Nat} (h : n ≠ 0) :
    ∃ d rest, digits n = d :: rest ∧ d ≠ '0' ∧ Figures (d :: rest) ∧
      placeValue (d :: rest) = n := by
  obtain ⟨d, rest, hdigits, hd⟩ := exists_digits h
  have hf := figures_digits n
  have hv := placeValue_digits n
  rw [hdigits] at hf hv
  exact ⟨d, rest, hdigits, hd, hf, hv⟩

/-- **Digits without a leading zero are those of their value.** -/
theorem digits_placeValue {d : Char} {rest : Text} (hd : d ≠ '0') (h : Figures (d :: rest)) :
    placeValue (d :: rest) ≠ 0 ∧ digits (placeValue (d :: rest)) = d :: rest := by
  have hplaces : Nat.digits 10 (placeValue (d :: rest)) = (d :: rest).reverse.map digitValue := by
    refine Nat.digits_ofDigits 10 (by decide) _ ?_ ?_
    · intro v hv
      obtain ⟨c, hc, rfl⟩ := List.mem_map.1 hv
      exact digitValue_lt (h.2 c (List.mem_reverse.1 hc))
    · intro hne
      rw [List.getLast_map, List.getLast_reverse]
      exact digitValue_ne_zero (h.2 d List.mem_cons_self) hd
  have hvalue : placeValue (d :: rest) ≠ 0 := by
    intro hzero
    rw [hzero] at hplaces
    simp at hplaces
  refine ⟨hvalue, ?_⟩
  have hchars : ((d :: rest).map digitValue).map digitChar = d :: rest := by
    rw [List.map_map]
    calc (d :: rest).map (digitChar ∘ digitValue)
      _ = (d :: rest).map id := List.map_congr_left fun c hc => digitChar_digitValue (h.2 c hc)
      _ = d :: rest := List.map_id _
  rw [digits_eq hvalue, hplaces, ← List.map_reverse, List.reverse_reverse, hchars]

/-! ## Texts that denote a number -/

/-- A text denotes a number: one or more digits, behind at most one sign. -/
inductive Denotes : Text → Int → Prop
  | plain {t : Text} : Figures t → Denotes t (placeValue t)
  | plus {t : Text} : Figures t → Denotes ('+' :: t) (placeValue t)
  | minus {t : Text} : Figures t → Denotes ('-' :: t) (-(placeValue t))

/-- A text denotes a number of 64 bits. -/
structure IsLong (t : Text) (n : Int) : Prop where
  denotes : Denotes t n
  least : -2 ^ 63 ≤ n
  greatest : n ≤ 2 ^ 63 - 1

/-- Figures are read, and a sign is given to their value. -/
theorem map_ofDigits?_eq_some_iff {t : Text} {sign : Int → Int} {n : Int} :
    Option.map sign (ofDigits? t : Option Int) = some n ↔
      Figures t ∧ sign (placeValue t) = n := by
  cases hread : ofDigits? t with
  | none =>
    have hno : ¬ Figures t := by
      intro hf
      rw [ofDigits?_eq_some_iff_figures.2 ⟨hf, rfl⟩] at hread
      cases hread
    simp [hno]
  | some m =>
    obtain ⟨hf, rfl⟩ := ofDigits?_eq_some_iff_figures.1 hread
    simp [hf]

/-- **The texts that denote a number are read**, and no others. -/
theorem ofSigned?_eq_some_iff {t : Text} {n : Int} : ofSigned? t = some n ↔ Denotes t n := by
  constructor
  · intro h
    unfold ofSigned? at h
    split at h
    · obtain ⟨hf, rfl⟩ := map_ofDigits?_eq_some_iff.1 h
      exact .minus hf
    · obtain ⟨hf, rfl⟩ := map_ofDigits?_eq_some_iff.1 h
      exact .plus hf
    · obtain ⟨hf, rfl⟩ := map_ofDigits?_eq_some_iff.1 h
      exact .plain hf
  · intro h
    cases h with
    | @plain t hf =>
      obtain ⟨c, rest, rfl⟩ := List.exists_cons_of_ne_nil hf.1
      rw [ofSigned?_cons (hf.2 c List.mem_cons_self)]
      exact map_ofDigits?_eq_some_iff.2 ⟨hf, rfl⟩
    | plus hf => exact map_ofDigits?_eq_some_iff.2 ⟨hf, rfl⟩
    | minus hf => exact map_ofDigits?_eq_some_iff.2 ⟨hf, rfl⟩

theorem inRange_iff {n : Int} :
    (least ≤ n && n ≤ greatest) = true ↔ -2 ^ 63 ≤ n ∧ n ≤ 2 ^ 63 - 1 := by
  have hleast : least = -2 ^ 63 := by norm_num [least]
  have hgreatest : greatest = 2 ^ 63 - 1 := by norm_num [greatest]
  rw [hleast, hgreatest, Bool.and_eq_true, decide_eq_true_eq, decide_eq_true_eq]

/-- **The texts that denote a number of 64 bits are read as one**, and no others. -/
theorem long?_eq_some_iff {t : Text} {n : Int} : long? t = some n ↔ IsLong t n := by
  rw [long?, Option.filter_eq_some_iff, ofSigned?_eq_some_iff, inRange_iff]
  constructor
  · rintro ⟨hd, hl, hg⟩
    exact ⟨hd, hl, hg⟩
  · rintro ⟨hd, hl, hg⟩
    exact ⟨hd, hl, hg⟩

/-- A number of 64 bits is read back as one. -/
theorem IsLong.render {t : Text} {n : Int} (h : IsLong t n) : IsLong (render n) n :=
  ⟨ofSigned?_eq_some_iff.1 (ofSigned?_render n), h.least, h.greatest⟩

theorem long?_eq_none_iff {t : Text} : long? t = none ↔ ¬ ∃ n, IsLong t n := by
  rw [Option.eq_none_iff_forall_ne_some, not_exists]
  exact forall_congr' fun n => not_congr long?_eq_some_iff

/-! ## The canonical text -/

/-- The text of a number with nothing to spare: zero is one digit, no other number
    has a leading zero, and only a minus sign is written. -/
inductive Canonical : Text → Int → Prop
  | zero : Canonical ['0'] 0
  | positive {d : Char} {rest : Text} : d ≠ '0' → Figures (d :: rest) →
      Canonical (d :: rest) (placeValue (d :: rest))
  | negative {d : Char} {rest : Text} : d ≠ '0' → Figures (d :: rest) →
      Canonical ('-' :: d :: rest) (-(placeValue (d :: rest)))

theorem render_neg {m : Nat} (h : m ≠ 0) : render (-(m : Int)) = '-' :: digits m := by
  obtain ⟨k, rfl⟩ := Nat.exists_eq_succ_of_ne_zero h
  rfl

theorem render_zero : render 0 = ['0'] := by
  show digits 0 = ['0']
  rw [digits]
  rfl

theorem canonical_render (n : Int) : Canonical (render n) n := by
  obtain ⟨m, hn⟩ := n.eq_nat_or_neg
  by_cases hm : m = 0
  · have hzero : n = 0 := by omega
    rw [hzero, render_zero]
    exact .zero
  · obtain ⟨d, rest, hdigits, hd, hf, hv⟩ := exists_figures hm
    rcases hn with rfl | rfl
    · show Canonical (digits m) m
      rw [hdigits, ← hv]
      exact .positive hd hf
    · rw [render_neg hm, hdigits, ← hv]
      exact .negative hd hf

/-- **Each number has one canonical text**, and is written so. -/
theorem canonical_iff {t : Text} {n : Int} : Canonical t n ↔ t = render n := by
  constructor
  · intro h
    cases h with
    | zero => exact render_zero.symm
    | positive hd hf =>
      obtain ⟨-, hdigits⟩ := digits_placeValue hd hf
      exact hdigits.symm
    | negative hd hf =>
      obtain ⟨hv, hdigits⟩ := digits_placeValue hd hf
      rw [render_neg hv, hdigits]
  · rintro rfl
    exact canonical_render n

end Runpad.Number
