/-
  Texts as bytes.

  * `encode` writes a text as UTF-8, one to four bytes for a character;
  * `decode` reads bytes back, or tells the first fault: where it is and how
    many bytes it takes up, or that the bytes end within a character;
  * `Fault.message` is the wording of a fault.
-/
import Runpad.Text.Ranges

namespace Runpad

/-- Bytes in order. -/
abbrev Bytes := List UInt8

namespace Utf8

/-! ## Writing -/

/-- The bytes of a character. -/
def encodeChar (c : Char) : Bytes :=
  let n := c.toNat
  if n < 0x80 then [.ofNat n]
  else if n < 0x800 then [.ofNat (0xC0 + n / 64), .ofNat (0x80 + n % 64)]
  else if n < 0x10000 then
    [.ofNat (0xE0 + n / 4096), .ofNat (0x80 + n / 64 % 64), .ofNat (0x80 + n % 64)]
  else
    [.ofNat (0xF0 + n / 262144), .ofNat (0x80 + n / 4096 % 64), .ofNat (0x80 + n / 64 % 64),
      .ofNat (0x80 + n % 64)]

/-- The bytes of a text. -/
def encode (t : Text) : Bytes :=
  t.flatMap encodeChar

@[simp] theorem encode_nil : encode [] = [] := rfl

@[simp] theorem encode_cons (c : Char) (t : Text) : encode (c :: t) = encodeChar c ++ encode t :=
  rfl

theorem encode_append (s t : Text) : encode (s ++ t) = encode s ++ encode t := by
  simp [encode]

/-! ## Reading -/

/-- What bytes start with. -/
inductive Head where
  /-- A character of the given number of bytes. -/
  | char (c : Char) (length : Nat)
  /-- Bytes that start no character; the first `length` of them are skipped
      together. -/
  | invalid (length : Nat)
  /-- The start of a character that the bytes end within. -/
  | cutShort
  deriving DecidableEq, Repr

/-- Whether a byte continues a character. -/
def isTail (b : Nat) : Bool :=
  0x80 ≤ b && b ≤ 0xBF

/-- The least and the greatest second byte after the first byte of a character
    of three or four bytes; no text has a surrogate, an overlong form or a
    character above the last one. -/
def secondRange (first : Nat) : Nat × Nat :=
  if first = 0xE0 then (0xA0, 0xBF)
  else if first = 0xED then (0x80, 0x9F)
  else if first = 0xF0 then (0x90, 0xBF)
  else if first = 0xF4 then (0x80, 0x8F)
  else (0x80, 0xBF)

/-- Reads the tail bytes of a character: `code` is the value of the `had` bytes
    before and `n` the number of bytes still due. -/
def readTail (code had : Nat) : Nat → Bytes → Head
  | 0, _ => .char (Char.ofNat code) had
  | _ + 1, [] => .cutShort
  | n + 1, b :: rest =>
    if isTail b.toNat then readTail (code * 64 + (b.toNat - 0x80)) (had + 1) n rest
    else .invalid had

/-- Reads the second byte of a character of three or four bytes, and the others
    after it. -/
def readSecond (first lead n : Nat) : Bytes → Head
  | [] => .cutShort
  | b :: rest =>
    let (lo, hi) := secondRange first
    if lo ≤ b.toNat && b.toNat ≤ hi then readTail (lead * 64 + (b.toNat - 0x80)) 2 n rest
    else .invalid 1

/-- What a first byte and the bytes after it start with. -/
def head (byte : UInt8) (rest : Bytes) : Head :=
  let first := byte.toNat
  if first < 0x80 then .char (Char.ofNat first) 1
  else if first < 0xC2 then .invalid 1
  else if first < 0xE0 then readTail (first - 0xC0) 1 1 rest
  else if first < 0xF0 then readSecond first (first - 0xE0) 1 rest
  else if first < 0xF5 then readSecond first (first - 0xF0) 2 rest
  else .invalid 1

/-- The first fault of bytes that are no text: the number of good bytes before
    it, and how many bytes it takes up, if the bytes do not just end too soon. -/
structure Fault where
  index : Nat
  length : Option Nat
  deriving DecidableEq, Repr

/-- The wording of a fault. -/
def Fault.message : Fault → Text
  | ⟨index, some length⟩ =>
    s!"invalid utf-8 sequence of {length} bytes from index {index}".toList
  | ⟨index, none⟩ => s!"incomplete utf-8 byte sequence from index {index}".toList

/-- Reads bytes as a text; `index` bytes were read before, and the first `skip`
    bytes belong to a character already read. -/
def decodeFrom (index : Nat) : Nat → Bytes → Except Fault Text
  | _, [] => .ok []
  | skip + 1, _ :: rest => decodeFrom (index + 1) skip rest
  | 0, b :: rest =>
    match head b rest with
    | .char c length => (c :: ·) <$> decodeFrom (index + 1) (length - 1) rest
    | .invalid length => .error ⟨index, some length⟩
    | .cutShort => .error ⟨index, none⟩

/-- Reads bytes as a text. -/
def decode (bytes : Bytes) : Except Fault Text :=
  decodeFrom 0 0 bytes

/-- The text of bytes, if they are one. -/
def decode? (bytes : Bytes) : Option Text :=
  (decode bytes).toOption

end Utf8

end Runpad
