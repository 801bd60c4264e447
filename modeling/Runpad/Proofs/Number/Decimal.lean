/-
  Numbers that are read as they were written.

  * `valueOf_digits`: the digits of a number have its value;
  * `ofSigned?_render` and `long?_render`: a signed number is read back, and so is
    every one of 64 bits, the least one too;
  * `mem_render`: it is written with digits and a minus sign;
  * `IsWord` is a text that denotes a number of 16 bits, and `word?_eq_some_iff`: these
    texts are read, so that such a number is read back (`word?_digits`).
-/
import Mathlib
import Runpad.Number.Integer
import Runpad.Proofs.Text.Trim

namespace Runpad.Number

/-! ## Digits -/

theorem isDigit_digitChar {d : Nat} (h : d < 10) : isDigit (digitChar d) = true := by
  interval_cases d <;> rfl

theorem digitValue_digitChar {d : Nat} (h : d < 10) : digitValue (digitChar d) = d := by
  interval_cases d <;> rfl

theorem toNat_of_isDigit {c : Char} (h : isDigit c = true) : 48 ≤ c.toNat ∧ c.toNat ≤ 57 := by
  simpa [isDigit, Char.le_def, UInt32.le_iff_toNat_le] using h

theorem valueOf_concat (t : Text) (c : Char) :
    valueOf (t ++ [c]) = 10 * valueOf t + digitValue c := by
  simp [valueOf]

theorem digits_ne_nil (n : Nat) : digits n ≠ [] := by
  rw [digits]
  split <;> simp

theorem isDigit_of_mem_digits {n : Nat} {c : Char} (h : c ∈ digits n) : isDigit c = true := by
  induction n using digits.induct with
  | case1 n hn =>
    rw [digits, if_pos hn, List.mem_singleton] at h
    rw [h]
    exact isDigit_digitChar hn
  | case2 n hn ih =>
    rw [digits, if_neg hn, List.mem_append, List.mem_singleton] at h
    rcases h with h | rfl
    · exact ih h
    · exact isDigit_digitChar (Nat.mod_lt n (by decide))

/-- There are no blanks around digits. -/
theorem trim_digits (n : Nat) : Text.trim (digits n) = digits n := by
  have hblank : ∀ c ∈ digits n, Text.isBlank c = false := by
    intro c hc
    obtain ⟨hlow, hhigh⟩ := toNat_of_isDigit (isDigit_of_mem_digits hc)
    rw [Text.isBlank, Text.Ranges.holds]
    generalize c.toNat = code at hlow hhigh
    interval_cases code <;> rfl
  exact Text.trim_eq_self_iff.2 ⟨fun c hc => hblank c (List.mem_of_mem_head? hc),
    fun c hc => hblank c (List.mem_of_mem_getLast? hc)⟩

/-- **The digits of a number have its value.** -/
theorem valueOf_digits (n : Nat) : valueOf (digits n) = n := by
  induction n using digits.induct with
  | case1 n hn =>
    rw [digits, if_pos hn]
    simp [valueOf, digitValue_digitChar hn]
  | case2 n hn ih =>
    rw [digits, if_neg hn, valueOf_concat, ih, digitValue_digitChar (Nat.mod_lt n (by decide))]
    exact Nat.div_add_mod n 10

theorem ofDigits?_digits (n : Nat) : ofDigits? (digits n) = some n := by
  rw [ofDigits?, if_pos, valueOf_digits]
  exact ⟨digits_ne_nil n, List.all_eq_true.2 fun _ => isDigit_of_mem_digits⟩

/-! ## Signs -/

/-- What starts with a digit has no sign. -/
theorem ofSigned?_cons {c : Char} (h : isDigit c = true) (t : Text) :
    ofSigned? (c :: t) = (ofDigits? (c :: t)).map fun n => (n : Int) := by
  unfold ofSigned?
  split
  · next heq =>
    cases heq
    cases h
  · next heq =>
    cases heq
    cases h
  · rfl

theorem ofSigned?_digits (n : Nat) : ofSigned? (digits n) = some (n : Int) := by
  cases hd : digits n with
  | nil => exact absurd hd (digits_ne_nil n)
  | cons c t =>
    have hmem : c ∈ digits n := by
      rw [hd]
      exact List.mem_cons_self
    have hc : isDigit c = true := isDigit_of_mem_digits hmem
    rw [ofSigned?_cons hc, ← hd, ofDigits?_digits]
    rfl

/-- **A number is read back**, whatever its sign. -/
theorem ofSigned?_render (n : Int) : ofSigned? (render n) = some n := by
  cases n with
  | ofNat n => exact ofSigned?_digits n
  | negSucc n =>
    simp only [render, ofSigned?, ofDigits?_digits]
    rfl

theorem long?_render {n : Int} (hl : least ≤ n) (hg : n ≤ greatest) :
    long? (render n) = some n := by
  rw [long?, ofSigned?_render, Option.filter_some, if_pos]
  simp [hl, hg]

theorem mem_render {n : Int} {c : Char} (h : c ∈ render n) : c = '-' ∨ isDigit c = true := by
  cases n with
  | ofNat n => exact Or.inr (isDigit_of_mem_digits h)
  | negSucc n =>
    rcases List.mem_cons.1 h with hc | hc
    · exact Or.inl hc
    · exact Or.inr (isDigit_of_mem_digits hc)

/-! ## Numbers of 16 bits -/

/-- A text of decimal digits, perhaps behind a plus sign, whose value has 16 bits. -/
def IsWord (t : Text) (n : Nat) : Prop :=
  ∃ sign figures, t = sign ++ figures ∧ (sign = [] ∨ sign = ['+']) ∧ figures ≠ [] ∧
    (∀ c ∈ figures, isDigit c = true) ∧ valueOf figures = n ∧ n < 65536

theorem ofDigits?_eq_some_iff {t : Text} {n : Nat} :
    ofDigits? t = some n ↔ t ≠ [] ∧ (∀ c ∈ t, isDigit c = true) ∧ valueOf t = n := by
  simp [ofDigits?, and_assoc]

theorem filter_ofDigits?_iff {t : Text} {n : Nat} : (ofDigits? t).filter (· < 65536) = some n ↔
    t ≠ [] ∧ (∀ c ∈ t, isDigit c = true) ∧ valueOf t = n ∧ n < 65536 := by
  rw [Option.filter_eq_some_iff, ofDigits?_eq_some_iff, decide_eq_true_eq, and_assoc, and_assoc]

theorem word?_eq_some_iff {t : Text} {n : Nat} : word? t = some n ↔ IsWord t n := by
  constructor
  · intro h
    unfold word? at h
    split at h
    · next rest => exact ⟨['+'], rest, rfl, Or.inr rfl, filter_ofDigits?_iff.1 h⟩
    · exact ⟨[], t, rfl, Or.inl rfl, filter_ofDigits?_iff.1 h⟩
  · rintro ⟨sign, figures, rfl, rfl | rfl, h⟩
    · unfold word?
      rw [List.nil_append]
      split
      · -- a digit comes first, and a plus sign is none
        exact absurd (h.2.1 '+' List.mem_cons_self) (by decide)
      · exact filter_ofDigits?_iff.2 h
    · exact filter_ofDigits?_iff.2 h

theorem word?_digits {n : Nat} (h : n < 65536) : word? (digits n) = some n :=
  word?_eq_some_iff.2 ⟨[], digits n, rfl, Or.inl rfl, digits_ne_nil n,
    fun _ => isDigit_of_mem_digits, valueOf_digits n, h⟩

end Runpad.Number
