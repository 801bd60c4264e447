/-
  Cutting bytes between characters.

  The bytes of a text may be cut only where a character starts or at their end.
  The functions here take a place in the bytes and have no result when it is not
  such a boundary.

  * `starts` are the places at which a character starts, `byteIndex` is the place
    of a column, `count` the number of columns;
  * `insertAt`, `removeAt`, `splitAt` and `before` are the edits and cuts at a
    place; each tests it;
  * `byteIndex_encode`: the place of a column is the length of the characters
    before it; `insertAt_encode` and its neighbours: there every edit and cut
    goes through.
-/
import Mathlib
import Runpad.Proofs.Text.Utf8

namespace Runpad.Utf8

/-! ## Places -/

/-- Whether a byte starts a character. -/
def isStart (b : UInt8) : Bool :=
  !isTail b.toNat

/-- The places at which a character starts, of bytes that begin at `place`. -/
def starts (place : Nat) : Bytes → List Nat
  | [] => []
  | b :: rest => if isStart b then place :: starts (place + 1) rest else starts (place + 1) rest

/-- The number of characters. -/
def count (bytes : Bytes) : Nat :=
  (starts 0 bytes).length

/-- The place of the character in a column; the end, if there is none. -/
def byteIndex (bytes : Bytes) (column : Nat) : Nat :=
  (starts 0 bytes)[column]?.getD bytes.length

/-- Whether the bytes may be cut at a place. -/
def isBoundary (bytes : Bytes) (place : Nat) : Bool :=
  place = 0 ||
    match bytes[place]? with
    | some b => isStart b
    | none => place = bytes.length

/-! ## Edits and cuts -/

/-- The bytes before and from a boundary on. -/
def splitAt (place : Nat) (bytes : Bytes) : Option (Bytes × Bytes) :=
  if isBoundary bytes place then some (bytes.take place, bytes.drop place) else none

/-- The text before a boundary. -/
def before (place : Nat) (bytes : Bytes) : Option Text := do
  let (start, _) ← splitAt place bytes
  decode? start

/-- Puts a character in at a boundary. -/
def insertAt (c : Char) (place : Nat) (bytes : Bytes) : Option Bytes := do
  let (start, rest) ← splitAt place bytes
  some (start ++ encodeChar c ++ rest)

/-- Takes out the character that starts at a boundary; there has to be one. -/
def removeAt (place : Nat) (bytes : Bytes) : Option Bytes := do
  let (start, rest) ← splitAt place bytes
  match rest with
  | [] => none
  | b :: later =>
    match head b later with
    | .char _ length => some (start ++ rest.drop length)
    | .invalid _ | .cutShort => none

/-! ## The bytes of a character -/

theorem isStart_ofNat {n : Nat} (h : n < 256) :
    isStart (.ofNat n) = true ↔ n < 0x80 ∨ 0xBF < n := by
  simp only [isStart, isTail, toNat_byte h, Bool.not_eq_true', Bool.and_eq_false_iff,
    decide_eq_false_iff_not, Nat.not_le]

/-- The first byte of a character starts it, and no other does. -/
theorem encodeChar_shape (c : Char) :
    ∃ b tail, encodeChar c = b :: tail ∧ isStart b = true ∧ ∀ x ∈ tail, isStart x = false := by
  have hc := code_valid c
  simp only [encodeChar]
  generalize c.toNat = n at hc
  have htail : ∀ {d}, d < 64 → isStart (.ofNat (0x80 + d)) = false := by
    intro d hd
    rw [← Bool.not_eq_true, isStart_ofNat (by omega)]
    omega
  split_ifs
  all_goals
    refine ⟨_, _, rfl, (isStart_ofNat (by omega)).2 (by omega), ?_⟩
    simp only [List.forall_mem_cons, List.not_mem_nil, false_implies, implies_true, and_true]
  · exact htail (by omega)
  · exact ⟨htail (by omega), htail (by omega)⟩
  · exact ⟨htail (by omega), htail (by omega), htail (by omega)⟩

theorem starts_tail {tail : Bytes} (h : ∀ x ∈ tail, isStart x = false) (place : Nat)
    (rest : Bytes) :
    starts place (tail ++ rest) = starts (place + tail.length) rest := by
  induction tail generalizing place with
  | nil => rfl
  | cons x tail ih =>
    obtain ⟨hx, htail⟩ := List.forall_mem_cons.1 h
    rw [List.cons_append, starts, hx, if_neg Bool.false_ne_true, ih htail, List.length_cons,
      Nat.add_right_comm, Nat.add_assoc]

theorem starts_encodeChar (place : Nat) (c : Char) (rest : Bytes) :
    starts place (encodeChar c ++ rest) = place :: starts (place + (encodeChar c).length) rest := by
  obtain ⟨b, tail, hc, hb, htail⟩ := encodeChar_shape c
  rw [hc, List.cons_append, starts, if_pos hb, starts_tail htail, List.length_cons,
    Nat.add_assoc, Nat.add_comm 1]

/-! ## The bytes of a text -/

theorem length_starts (place : Nat) (t : Text) : (starts place (encode t)).length = t.length := by
  induction t generalizing place with
  | nil => rfl
  | cons c t ih => rw [encode_cons, starts_encodeChar, List.length_cons, ih, List.length_cons]

@[simp] theorem count_encode (t : Text) : count (encode t) = t.length :=
  length_starts 0 t

theorem getElem?_starts (place : Nat) (s : Text) (c : Char) (t : Text) :
    (starts place (encode (s ++ c :: t)))[s.length]? = some (place + (encode s).length) := by
  induction s generalizing place with
  | nil => rw [List.nil_append, encode_cons, starts_encodeChar]; rfl
  | cons d s ih =>
    rw [List.cons_append, encode_cons, starts_encodeChar, List.length_cons,
      List.getElem?_cons_succ, ih, encode_cons, List.length_append, Nat.add_assoc]

/-- The place of a column is the length of the characters before it. -/
theorem byteIndex_encode (s t : Text) :
    byteIndex (encode (s ++ t)) s.length = (encode s).length := by
  unfold byteIndex
  cases t with
  | nil =>
    have hnone : (starts 0 (encode s))[s.length]? = none := by
      rw [List.getElem?_eq_none_iff, length_starts]
    rw [List.append_nil, hnone, Option.getD_none]
  | cons c t => rw [getElem?_starts, Option.getD_some, Nat.zero_add]

theorem isBoundary_encode (s t : Text) :
    isBoundary (encode (s ++ t)) (encode s).length = true := by
  unfold isBoundary
  rw [encode_append, List.getElem?_append_right le_rfl, Nat.sub_self]
  cases t with
  | nil => simp
  | cons c t =>
    obtain ⟨b, tail, hc, hb, -⟩ := encodeChar_shape c
    simp [hc, hb]

@[simp] theorem splitAt_encode (s t : Text) :
    splitAt (encode s).length (encode (s ++ t)) = some (encode s, encode t) := by
  unfold splitAt
  rw [if_pos (isBoundary_encode s t), encode_append, List.take_left, List.drop_left]

theorem before_encode (s t : Text) : before (encode s).length (encode (s ++ t)) = some s := by
  have hread : decode (encode s) = .ok s := decode_eq_ok_iff.2 rfl
  simp [before, decode?, hread, Except.toOption]

theorem insertAt_encode (c : Char) (s t : Text) :
    insertAt c (encode s).length (encode (s ++ t)) = some (encode (s ++ c :: t)) := by
  simp only [insertAt, splitAt_encode, Option.bind_eq_bind, Option.bind_some]
  rw [encode_append, encode_cons, List.append_assoc]

/-- There is a character to take out. -/
theorem removeAt_encode (c : Char) (s t : Text) :
    removeAt (encode s).length (encode (s ++ c :: t)) = some (encode (s ++ t)) := by
  obtain ⟨b, tail, hc, -, -⟩ := encodeChar_shape c
  have hsplit : encode (c :: t) = b :: (tail ++ encode t) := by rw [encode_cons, hc]; rfl
  have hhead : head b (tail ++ encode t) = .char c (encodeChar c).length :=
    head_encodeChar c hsplit.symm
  have hdrop : (encode (c :: t)).drop (encodeChar c).length = encode t := by
    rw [encode_cons, List.drop_left]
  simp only [removeAt, splitAt_encode, Option.bind_eq_bind, Option.bind_some, hsplit, hhead]
  rw [← hsplit, hdrop, encode_append]

end Runpad.Utf8
