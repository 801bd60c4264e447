/-
  A connection on which given bytes come back.

  * `byteLines` cuts bytes after each line feed; `nextLine_eq`: taking one line
    after the other off a stream of bytes gives these lines;
  * `Stream` is the other end of a connection that sends its bytes whatever it is
    sent, and keeps what it was sent;
  * `Reply` says what a line that comes back stands for, `reply_iff` that a client
    takes it so.
-/
import Mathlib
import Runpad.Gateway.Client
import Runpad.Proofs.Gateway.Framing
import Runpad.Proofs.Text.Utf8

namespace Runpad.Gateway

/-! ## Lines of bytes -/

/-- The byte that ends a line. -/
def feed : UInt8 := 10

/-- Bytes cut after each line feed; what is left at the end is a line too. -/
def byteLines : Bytes → List Bytes
  | [] => []
  | b :: rest =>
    if b = feed then [b] :: byteLines rest
    else
      match byteLines rest with
      | [] => [[b]]
      | l :: later => (b :: l) :: later

/-- The next line of a stream and what comes after it; none at the end. -/
def nextLine (bytes : Bytes) : Option Bytes × Bytes :=
  match bytes.dropWhile (· ≠ feed) with
  | b :: rest => (some (bytes.takeWhile (· ≠ feed) ++ [b]), rest)
  | [] => (if bytes = [] then none else some bytes, [])

theorem nextLine_cons {b : UInt8} (h : b ≠ feed) (rest : Bytes) :
    nextLine (b :: rest) = (some (b :: (nextLine rest).1.getD []), (nextLine rest).2) := by
  unfold nextLine
  rw [List.dropWhile_cons_of_pos (by simpa using h), List.takeWhile_cons_of_pos (by simpa using h)]
  split
  · rfl
  · by_cases hr : rest = [] <;> simp [hr]

/-- **Lines are taken off a stream one after the other.** -/
theorem nextLine_eq (bytes : Bytes) :
    (nextLine bytes).1 = (byteLines bytes).head? ∧
      byteLines (nextLine bytes).2 = (byteLines bytes).tail := by
  induction bytes with
  | nil => exact ⟨rfl, rfl⟩
  | cons b rest ih =>
    by_cases h : b = feed
    · subst h
      simp [nextLine, byteLines]
    · obtain ⟨ih₁, ih₂⟩ := ih
      rw [nextLine_cons h, byteLines, if_neg h]
      cases hr : byteLines rest with
      | nil => rw [hr] at ih₁ ih₂; exact ⟨by simp [ih₁], ih₂⟩
      | cons l later => rw [hr] at ih₁ ih₂; exact ⟨by simp [ih₁], ih₂⟩

theorem nextLine_line {l : Bytes} (h : feed ∉ l) (rest : Bytes) :
    nextLine (l ++ feed :: rest) = (some (l ++ [feed]), rest) := by
  rw [nextLine, dropWhile_ne_append h, takeWhile_ne_append h]

/-- No character but the line feed has its byte. -/
theorem feed_notMem_encodeChar {c : Char} (h : c ≠ '\n') : feed ∉ Utf8.encodeChar c := by
  have hc : c.toNat ≠ 10 := fun hc => h (Char.toNat_inj.1 hc)
  have hbyte : ∀ n, n < 256 → n ≠ 10 → feed ≠ UInt8.ofNat n := by
    intro n hn hne hf
    apply hne
    rw [← Utf8.toNat_byte hn, ← hf]
    rfl
  have hmax : c.toNat < 0x110000 := by rcases Utf8.code_valid c with h | h <;> omega
  unfold Utf8.encodeChar
  simp only
  split_ifs with h₁ h₂ h₃
  all_goals simp only [List.mem_cons, List.not_mem_nil, or_false, not_or]
  · exact hbyte _ (by omega) hc
  · exact ⟨hbyte _ (by omega) (by omega), hbyte _ (by omega) (by omega)⟩
  · exact ⟨hbyte _ (by omega) (by omega), hbyte _ (by omega) (by omega),
      hbyte _ (by omega) (by omega)⟩
  · exact ⟨hbyte _ (by omega) (by omega), hbyte _ (by omega) (by omega),
      hbyte _ (by omega) (by omega), hbyte _ (by omega) (by omega)⟩

theorem feed_notMem_encode {l : Text} (h : '\n' ∉ l) : feed ∉ Utf8.encode l := by
  simp only [Utf8.encode, List.mem_flatMap, not_exists, not_and]
  rintro c hc
  exact feed_notMem_encodeChar (ne_of_mem_of_not_mem hc h)

/-- A line that was written is taken as one line. -/
theorem nextLine_encode {l : Text} (h : '\n' ∉ l) (rest : Bytes) :
    nextLine (Utf8.encode (l ++ ['\n']) ++ rest) = (some (Utf8.encode (l ++ ['\n'])), rest) := by
  have hline : Utf8.encode (l ++ ['\n']) = Utf8.encode l ++ [feed] := by
    rw [Utf8.encode_append]; rfl
  rw [hline, List.append_assoc, List.singleton_append, nextLine_line (feed_notMem_encode h)]

/-! ## The other end -/

/-- The other end of a connection: the bytes that it has still to send, and those
    that it was sent. -/
structure Stream where
  unread : Bytes
  sent : Bytes := []
  deriving DecidableEq, Repr

/-- It sends its bytes, whatever it is sent. -/
def Stream.peer : Peer Stream where
  send t s := { s with sent := s.sent ++ Utf8.encode t }
  line s := ((nextLine s.unread).1, { s with unread := (nextLine s.unread).2 })

/-- A client with a connection. -/
def connected : Client :=
  { address := "gateway:1".toList, entry := {} }

/-! ## What a line stands for -/

/-- What the line that comes back stands for, or the end of the stream. -/
inductive Reply : Option Bytes → Except Fault Value → Prop
  | closed : Reply none (.error .closed)
  | garbled {line : Bytes} {fault : Utf8.Fault} :
      (∀ t, Utf8.encode t ≠ line) → Utf8.decode line = .error fault →
        Reply (some line) (.error (.garbled fault))
  | text (t : Text) : Reply (some (Utf8.encode t)) (decode t)

/-- A client takes a line for what it stands for. -/
theorem reply_iff {line : Option Bytes} {reply : Except Fault Value} :
    Reply line reply ↔ reply = Client.answer line := by
  constructor
  · intro h
    cases h with
    | closed => rfl
    | garbled _ hd => simp [Client.answer, hd]
    | text t => simp [Client.answer]
  · rintro rfl
    cases line with
    | none => exact .closed
    | some line =>
      cases hd : Utf8.decode line with
      | ok t =>
        obtain rfl := Utf8.decode_eq_ok_iff.1 hd
        simpa [Client.answer] using Reply.text t
      | error fault =>
        have h : ∀ t, Utf8.encode t ≠ line := by
          rintro t rfl
          simp at hd
        simpa [Client.answer, hd] using Reply.garbled h hd

end Runpad.Gateway
