/-
  Bytes are read as a text exactly when they are how that text is written.

  * `head_encodeChar`: a character that was written is read back; `head_char`:
    what reads as a character is how it is written;
  * `decode_eq_ok_iff`: both for whole texts.
-/
import Mathlib
import Runpad.Text.Utf8

namespace Runpad.Utf8

/-! ## Characters -/

theorem code_valid (c : Char) : c.toNat < 0xD800 ∨ 0xDFFF < c.toNat ∧ c.toNat < 0x110000 :=
  c.valid

theorem toNat_ofCode {n : Nat} (h : n < 0xD800 ∨ 0xDFFF < n ∧ n < 0x110000) :
    (Char.ofNat n).toNat = n := by
  rw [Char.toNat_ofNat, if_pos h]

theorem toNat_byte {n : Nat} (h : n < 256) : (UInt8.ofNat n).toNat = n :=
  UInt8.toNat_ofNat_of_lt' h

theorem byte_eq {n : Nat} {b : UInt8} (h : n = b.toNat) : UInt8.ofNat n = b := by
  rw [h, UInt8.ofNat_toNat]

/-- A tail byte that was written is taken. -/
theorem readTail_byte (code had n : Nat) {d : Nat} (h : d < 64) (rest : Bytes) :
    readTail code had (n + 1) (.ofNat (0x80 + d) :: rest) =
      readTail (code * 64 + d) (had + 1) n rest := by
  rw [readTail, toNat_byte (by omega), if_pos (by simp [isTail]; omega), Nat.add_sub_cancel_left]

theorem readSecond_byte {first : Nat} (lead n : Nat) {d : Nat} (rest : Bytes)
    (h : (secondRange first).1 ≤ 0x80 + d ∧ 0x80 + d ≤ (secondRange first).2) (hd : d < 64) :
    readSecond first lead n (.ofNat (0x80 + d) :: rest) = readTail (lead * 64 + d) 2 n rest := by
  rw [readSecond, toNat_byte (by omega)]
  simp only
  rw [if_pos (by simpa using h), Nat.add_sub_cancel_left]

theorem head_one {n : Nat} (h : n < 0x80) (rest : Bytes) :
    head (.ofNat n) rest = .char (Char.ofNat n) 1 := by
  rw [head, toNat_byte (by omega), if_pos h]

theorem head_two {x y : Nat} (hx : 2 ≤ x) (hx' : x < 32) (hy : y < 64) (rest : Bytes) :
    head (.ofNat (0xC0 + x)) (.ofNat (0x80 + y) :: rest) = .char (Char.ofNat (x * 64 + y)) 2 := by
  rw [head, toNat_byte (by omega), if_neg (by omega), if_neg (by omega), if_pos (by omega),
    Nat.add_sub_cancel_left, readTail_byte _ _ _ hy, readTail]

theorem head_three {x y z n : Nat} (hx : x < 16) (hy : y < 64) (hz : z < 64)
    (hn : (x * 64 + y) * 64 + z = n) (hlow : 0x800 ≤ n) (hs : n < 0xD800 ∨ 0xDFFF < n)
    (rest : Bytes) :
    head (.ofNat (0xE0 + x)) (.ofNat (0x80 + y) :: .ofNat (0x80 + z) :: rest) =
      .char (Char.ofNat n) 3 := by
  have hr : (secondRange (0xE0 + x)).1 ≤ 0x80 + y ∧ 0x80 + y ≤ (secondRange (0xE0 + x)).2 := by
    unfold secondRange
    split_ifs <;> simp only <;> omega
  rw [head, toNat_byte (by omega), if_neg (by omega), if_neg (by omega), if_neg (by omega),
    if_pos (by omega), Nat.add_sub_cancel_left, readSecond_byte _ _ _ hr hy,
    readTail_byte _ _ _ hz, readTail, hn]

theorem head_four {w x y z n : Nat} (hw : w < 5) (hx : x < 64) (hy : y < 64) (hz : z < 64)
    (hn : ((w * 64 + x) * 64 + y) * 64 + z = n) (hlow : 0x10000 ≤ n) (hhigh : n < 0x110000)
    (rest : Bytes) :
    head (.ofNat (0xF0 + w)) (.ofNat (0x80 + x) :: .ofNat (0x80 + y) :: .ofNat (0x80 + z) :: rest) =
      .char (Char.ofNat n) 4 := by
  have hr : (secondRange (0xF0 + w)).1 ≤ 0x80 + x ∧ 0x80 + x ≤ (secondRange (0xF0 + w)).2 := by
    unfold secondRange
    split_ifs <;> simp only <;> omega
  rw [head, toNat_byte (by omega), if_neg (by omega), if_neg (by omega), if_neg (by omega),
    if_neg (by omega), if_pos (by omega), Nat.add_sub_cancel_left, readSecond_byte _ _ _ hr hx,
    readTail_byte _ _ _ hy, readTail_byte _ _ _ hz, readTail, hn]

/-- **A character that was written is read back.** -/
theorem head_encodeChar (c : Char) {b : UInt8} {rest tail : Bytes}
    (h : b :: rest = encodeChar c ++ tail) : head b rest = .char c (encodeChar c).length := by
  have hc := code_valid c
  have hof := Char.ofNat_toNat c
  generalize hn : c.toNat = n at hc hof
  simp only [encodeChar, hn] at h ⊢
  by_cases h₁ : n < 0x80
  · rw [if_pos h₁] at h ⊢
    obtain ⟨rfl, rfl⟩ := List.cons.inj h
    rw [head_one h₁, hof]; rfl
  rw [if_neg h₁] at h ⊢
  by_cases h₂ : n < 0x800
  · rw [if_pos h₂] at h ⊢
    obtain ⟨rfl, rfl⟩ := List.cons.inj h
    refine (head_two (by omega) (by omega) (by omega) tail).trans ?_
    rw [Nat.div_add_mod' n 64, hof]; rfl
  rw [if_neg h₂] at h ⊢
  by_cases h₃ : n < 0x10000
  · rw [if_pos h₃] at h ⊢
    obtain ⟨rfl, rfl⟩ := List.cons.inj h
    refine (head_three (n := n) (by omega) (by omega) (by omega) (by omega) (by omega) (by omega)
      tail).trans ?_
    rw [hof]; rfl
  · rw [if_neg h₃] at h ⊢
    obtain ⟨rfl, rfl⟩ := List.cons.inj h
    refine (head_four (n := n) (by omega) (by omega) (by omega) (by omega) (by omega) (by omega)
      (by omega) tail).trans ?_
    rw [hof]; rfl

/-- What is taken as the last tail bytes of a character. -/
theorem readTail_char {code had n length : Nat} {bytes : Bytes} {c : Char}
    (h : readTail code had (n + 1) bytes = .char c length) :
    ∃ d rest, d < 64 ∧ bytes = .ofNat (0x80 + d) :: rest ∧
      readTail (code * 64 + d) (had + 1) n rest = .char c length := by
  cases bytes with
  | nil => simp [readTail] at h
  | cons b rest =>
    rw [readTail] at h
    split at h
    · next hb =>
      simp only [isTail, Bool.and_eq_true, decide_eq_true_eq] at hb
      exact ⟨b.toNat - 0x80, rest, by omega, by rw [byte_eq (b := b) (by omega)], h⟩
    · cases h

theorem readSecond_char {first lead n length : Nat} {bytes : Bytes} {c : Char}
    (h : readSecond first lead n bytes = .char c length) :
    ∃ d rest, d < 64 ∧ bytes = .ofNat (0x80 + d) :: rest ∧
      ((secondRange first).1 ≤ 0x80 + d ∧ 0x80 + d ≤ (secondRange first).2) ∧
      readTail (lead * 64 + d) 2 n rest = .char c length := by
  have hr : 0x80 ≤ (secondRange first).1 ∧ (secondRange first).2 ≤ 0xBF := by
    unfold secondRange
    split_ifs <;> simp
  cases bytes with
  | nil => simp [readSecond] at h
  | cons b rest =>
    rw [readSecond] at h
    simp only at h
    split at h
    · next hb =>
      simp only [Bool.and_eq_true, decide_eq_true_eq] at hb
      exact ⟨b.toNat - 0x80, rest, by omega, by rw [byte_eq (b := b) (by omega)], by omega, h⟩
    · cases h

theorem encodeChar_one {n : Nat} (h : n < 0x80) : encodeChar (Char.ofNat n) = [.ofNat n] := by
  simp only [encodeChar, toNat_ofCode (.inl (by omega : n < 0xD800))]
  rw [if_pos h]

theorem encodeChar_two {x y n : Nat} (hx : 2 ≤ x) (hx' : x < 32) (hy : y < 64)
    (hn : x * 64 + y = n) :
    encodeChar (Char.ofNat n) = [.ofNat (0xC0 + x), .ofNat (0x80 + y)] := by
  simp only [encodeChar, toNat_ofCode (.inl (by omega : n < 0xD800))]
  rw [if_neg (by omega), if_pos (by omega), show n / 64 = x by omega, show n % 64 = y by omega]

theorem encodeChar_three {x y z n : Nat} (hx : x < 16) (hy : y < 64) (hz : z < 64)
    (hn : (x * 64 + y) * 64 + z = n) (hlow : 0x800 ≤ n) (hs : n < 0xD800 ∨ 0xDFFF < n) :
    encodeChar (Char.ofNat n) = [.ofNat (0xE0 + x), .ofNat (0x80 + y), .ofNat (0x80 + z)] := by
  simp only [encodeChar, toNat_ofCode (by omega : n < 0xD800 ∨ 0xDFFF < n ∧ n < 0x110000)]
  rw [if_neg (by omega), if_neg (by omega), if_pos (by omega), show n / 4096 = x by omega,
    show n / 64 % 64 = y by omega, show n % 64 = z by omega]

theorem encodeChar_four {w x y z n : Nat} (hx : x < 64) (hy : y < 64) (hz : z < 64)
    (hn : ((w * 64 + x) * 64 + y) * 64 + z = n) (hlow : 0x10000 ≤ n) (hhigh : n < 0x110000) :
    encodeChar (Char.ofNat n) =
      [.ofNat (0xF0 + w), .ofNat (0x80 + x), .ofNat (0x80 + y), .ofNat (0x80 + z)] := by
  simp only [encodeChar, toNat_ofCode (by omega : n < 0xD800 ∨ 0xDFFF < n ∧ n < 0x110000)]
  rw [if_neg (by omega), if_neg (by omega), if_neg (by omega), show n / 262144 = w by omega,
    show n / 4096 % 64 = x by omega, show n / 64 % 64 = y by omega, show n % 64 = z by omega]

/-- **What reads as a character is how it is written.** -/
theorem head_char {b : UInt8} {rest : Bytes} {c : Char} {length : Nat}
    (h : head b rest = .char c length) :
    ∃ tail, b :: rest = encodeChar c ++ tail ∧ length = (encodeChar c).length := by
  have hb : b.toNat < 256 := b.toNat_lt
  have he := UInt8.ofNat_toNat (x := b)
  generalize hn : b.toNat = n at hb he
  rw [head, hn] at h
  split at h
  · next h₁ =>
    obtain ⟨rfl, rfl⟩ := Head.char.inj h
    exact ⟨rest, by rw [encodeChar_one h₁, he]; rfl, by rw [encodeChar_one h₁]; rfl⟩
  split at h
  · cases h
  split at h
  · obtain ⟨x, rfl⟩ : ∃ x, n = 0xC0 + x := ⟨n - 0xC0, by omega⟩
    obtain ⟨y, tail, hy, rfl, h₁⟩ := readTail_char h
    obtain ⟨rfl, rfl⟩ := Head.char.inj h₁
    rw [encodeChar_two (x := x) (y := y) (by omega) (by omega) hy (by omega), he]
    exact ⟨tail, rfl, rfl⟩
  split at h
  · obtain ⟨x, rfl⟩ : ∃ x, n = 0xE0 + x := ⟨n - 0xE0, by omega⟩
    obtain ⟨y, rest, hy, rfl, hr, h₁⟩ := readSecond_char h
    obtain ⟨z, tail, hz, rfl, h₂⟩ := readTail_char h₁
    obtain ⟨rfl, rfl⟩ := Head.char.inj h₂
    -- The second byte keeps short codes and surrogates out.
    have hv : 0x800 ≤ (x * 64 + y) * 64 + z ∧
        ((x * 64 + y) * 64 + z < 0xD800 ∨ 0xDFFF < (x * 64 + y) * 64 + z) := by
      unfold secondRange at hr
      split_ifs at hr <;> simp only at hr <;> omega
    rw [Nat.add_sub_cancel_left, encodeChar_three (by omega) hy hz rfl hv.1 hv.2, he]
    exact ⟨tail, rfl, rfl⟩
  split at h
  · obtain ⟨w, rfl⟩ : ∃ w, n = 0xF0 + w := ⟨n - 0xF0, by omega⟩
    obtain ⟨x, rest, hx, rfl, hr, h₁⟩ := readSecond_char h
    obtain ⟨y, rest, hy, rfl, h₂⟩ := readTail_char h₁
    obtain ⟨z, tail, hz, rfl, h₃⟩ := readTail_char h₂
    obtain ⟨rfl, rfl⟩ := Head.char.inj h₃
    have hv : 0x10000 ≤ ((w * 64 + x) * 64 + y) * 64 + z ∧
        ((w * 64 + x) * 64 + y) * 64 + z < 0x110000 := by
      unfold secondRange at hr
      split_ifs at hr <;> simp only at hr <;> omega
    rw [Nat.add_sub_cancel_left, encodeChar_four hx hy hz rfl hv.1 hv.2, he]
    exact ⟨tail, rfl, rfl⟩
  · cases h

/-! ## Texts -/

theorem encodeChar_ne_nil (c : Char) : encodeChar c ≠ [] := by
  simp only [encodeChar]
  split_ifs <;> simp

/-- Bytes of a character already read are passed over. -/
theorem decodeFrom_skip (index : Nat) (read bytes : Bytes) :
    decodeFrom index read.length (read ++ bytes) = decodeFrom (index + read.length) 0 bytes := by
  induction read generalizing index with
  | nil => rfl
  | cons b read ih =>
    rw [List.cons_append, List.length_cons, decodeFrom, ih]
    congr 1; omega

theorem decodeFrom_encodeChar (index : Nat) (c : Char) (bytes : Bytes) :
    decodeFrom index 0 (encodeChar c ++ bytes) =
      (c :: ·) <$> decodeFrom (index + (encodeChar c).length) 0 bytes := by
  obtain ⟨b, read, hb⟩ := List.exists_cons_of_ne_nil (encodeChar_ne_nil c)
  have hbytes : b :: (read ++ bytes) = encodeChar c ++ bytes := by rw [hb]; rfl
  rw [← hbytes, decodeFrom, head_encodeChar c hbytes, hb]
  simp only [List.length_cons, Nat.add_sub_cancel]
  rw [decodeFrom_skip, Nat.add_assoc, Nat.add_comm 1]

theorem decodeFrom_encode (index : Nat) (t : Text) : decodeFrom index 0 (encode t) = .ok t := by
  induction t generalizing index with
  | nil => rfl
  | cons c t ih => rw [encode_cons, decodeFrom_encodeChar, ih]; rfl

theorem cons_map_eq_ok {c : Char} {read : Except Fault Text} {t : Text} :
    (c :: ·) <$> read = .ok t ↔ ∃ t', read = .ok t' ∧ t = c :: t' := by
  cases read <;> simp [Functor.map, Except.map, eq_comm]

/-- A text that was read starts with the character that its first bytes are. -/
theorem decodeFrom_cons {index : Nat} {b : UInt8} {rest : Bytes} {t : Text}
    (h : decodeFrom index 0 (b :: rest) = .ok t) :
    ∃ c tail t', b :: rest = encodeChar c ++ tail ∧ t = c :: t' ∧
      decodeFrom (index + (encodeChar c).length) 0 tail = .ok t' := by
  have hhead := h
  rw [decodeFrom] at hhead
  split at hhead
  · next c length hc =>
    obtain ⟨tail, htail, -⟩ := head_char hc
    rw [htail, decodeFrom_encodeChar, cons_map_eq_ok] at h
    obtain ⟨t', ht', rfl⟩ := h
    exact ⟨c, tail, t', htail, rfl, ht'⟩
  · cases hhead
  · cases hhead

theorem encode_of_decodeFrom {index : Nat} {bytes : Bytes} {t : Text}
    (h : decodeFrom index 0 bytes = .ok t) : encode t = bytes := by
  induction t generalizing index bytes with
  | nil =>
    cases bytes with
    | nil => rfl
    | cons b rest =>
      obtain ⟨c, tail, t', -, ht, -⟩ := decodeFrom_cons h
      cases ht
  | cons c t ih =>
    cases bytes with
    | nil => simp [decodeFrom] at h
    | cons b rest =>
      obtain ⟨c', tail, t', hb, ht, hd⟩ := decodeFrom_cons h
      obtain ⟨rfl, rfl⟩ := List.cons.inj ht
      rw [encode_cons, ih hd, hb]

/-- **Bytes are read as a text iff they are how it is written.** -/
theorem decode_eq_ok_iff {bytes : Bytes} {t : Text} : decode bytes = .ok t ↔ encode t = bytes := by
  constructor
  · exact encode_of_decodeFrom
  · rintro rfl
    exact decodeFrom_encode 0 t

@[simp] theorem decode_encode (t : Text) : decode (encode t) = .ok t :=
  decode_eq_ok_iff.2 rfl

end Runpad.Utf8
