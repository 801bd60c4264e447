/-
  Results that are integers.

  * `IntegerLine` is a reply line that brings an integer, without and with its
    ending; `decode_integer` and `decode_noInteger`: it is understood iff its body
    denotes a number of 64 bits;
  * `Returns` is the line that a gateway answers with when it is asked for the
    result, and where that leaves it; `fetch_integer` and `fetch_noInteger`: what is
    fetched then;
  * `integers_exact`: an integer is shown as it is, or not at all.
-/
import Mathlib
import Runpad.Proofs.Gateway.Alignment
import Runpad.Proofs.Gateway.Codec
import Runpad.Proofs.Number.Signed

namespace Runpad.Gateway

open Number (IsLong Canonical)

/-! ## Lines that bring an integer -/

/-- A reply line that brings the body as an integer, without and with its ending. -/
inductive IntegerLine (body : Text) : Text → Text → Prop
  | line {tag : Char} {ending : Text} : tag = 'i' ∨ tag = 'L' → ending ∈ Text.endings →
      IntegerLine body ("!y".toList ++ tag :: body) ("!y".toList ++ tag :: body ++ ending)

section

variable {body stripped line : Text}

theorem IntegerLine.oneLine (h : IntegerLine body stripped line) (hn : '\n' ∉ body)
    (hr : '\r' ∉ body) : '\n' ∉ stripped ∧ '\r' ∉ stripped := by
  cases h with
  | line ht he => rcases ht with rfl | rfl <;> simp [hn, hr]

theorem decode_integerLine (h : IntegerLine body stripped line) (hn : '\n' ∉ body)
    (hr : '\r' ∉ body) :
    decode line =
      ((Number.long? body).map Value.integer).elim (.error (.malformed stripped)) .ok := by
  obtain ⟨hn', hr'⟩ := h.oneLine hn hr
  cases h with
  | line ht he =>
    rw [decode_append (Text.getLast?_ne_of_notMem hn') (Text.getLast?_ne_of_notMem hr') he]
    -- Both tags are read alike.
    rcases ht with rfl | rfl
    · rfl
    · rfl

/-- A body that denotes a number of 64 bits is understood. -/
theorem decode_integer (h : IntegerLine body stripped line) (hn : '\n' ∉ body) (hr : '\r' ∉ body)
    {n : Int} (hb : IsLong body n) : decode line = .ok (.integer n) := by
  rw [decode_integerLine h hn hr, Number.long?_eq_some_iff.2 hb]
  rfl

/-- Any other body is not. -/
theorem decode_noInteger (h : IntegerLine body stripped line) (hn : '\n' ∉ body)
    (hr : '\r' ∉ body) (hb : ¬ ∃ n, IsLong body n) :
    decode line = .error (.malformed stripped) := by
  rw [decode_integerLine h hn hr, Number.long?_eq_none_iff.2 hb]
  rfl

/-! ## What is fetched -/

variable {σ : Type} {peer : Peer σ} {c : Client} {s s' : σ}

/-- The gateway answers with the line when it is asked for the result, and is at `s'`
    then. -/
def Returns (peer : Peer σ) (c : Client) (s : σ) (line : Text) (s' : σ) : Prop :=
  peer.line (peer.send (Call.encode ⟨c.entry.target, c.entry.result, []⟩) s) =
    (some (Utf8.encode line), s')

theorem fetch_returned (hc : c.offline = none) (h : Returns peer c s line s') :
    c.fetch peer s = ((decode line).map Value.shown, c.after (decode line), s') := by
  have hline : peer.line (peer.send (Call.encode ⟨c.entry.target, c.entry.result, []⟩) s) =
    (some (Utf8.encode line), s') := h
  simp [Client.fetch, Client.call, hc, hline, Client.answer]

/-- An integer is fetched as it is written, and the connection stays. -/
theorem fetch_integer (hc : c.offline = none) (h : Returns peer c s line s')
    (hl : IntegerLine body stripped line) (hn : '\n' ∉ body) (hr : '\r' ∉ body) {n : Int}
    (hb : IsLong body n) : c.fetch peer s = (.ok (Number.render n), c, s') := by
  rw [fetch_returned hc h, decode_integer hl hn hr hb]
  rfl

/-- Anything else is a fault that ends the connection. -/
theorem fetch_noInteger (hc : c.offline = none) (h : Returns peer c s line s')
    (hl : IntegerLine body stripped line) (hn : '\n' ∉ body) (hr : '\r' ∉ body)
    (hb : ¬ ∃ n, IsLong body n) :
    c.fetch peer s = (.error (.malformed stripped), c.dropped (.malformed stripped), s') := by
  rw [fetch_returned hc h, decode_noInteger hl hn hr hb]
  rfl

/-- **Integers are exact or rejected.**  A text is fetched iff the body of the reply
    denotes a number of 64 bits: digits, with leading zeros or without, behind at
    most one sign.  It is the canonical text of that number, the connection stays,
    and where it comes back as a body it is fetched again.  Any other body is a
    malformed line, with which the connection is lost. -/
theorem integers_exact (hc : c.isConnected = true) (hn : '\n' ∉ body) (hr : '\r' ∉ body)
    (hl : IntegerLine body stripped line) (h : Returns peer c s line s') :
    ((∃ t, (c.fetch peer s).1 = .ok t) ↔ ∃ n, IsLong body n) ∧
    (∀ n, IsLong body n → ∃ t, Canonical t n ∧ c.fetch peer s = (.ok t, c, s') ∧
      ∀ stripped₂ line₂ s₂ s₂', IntegerLine t stripped₂ line₂ → Returns peer c s₂ line₂ s₂' →
        c.fetch peer s₂ = (.ok t, c, s₂')) ∧
    ((¬ ∃ n, IsLong body n) →
      c.fetch peer s = (.error (.malformed stripped), c.dropped (.malformed stripped), s')) := by
  have hc' : c.offline = none := by simpa [Client.isConnected] using hc
  refine ⟨⟨?_, ?_⟩, ?_, ?_⟩
  · rintro ⟨t, ht⟩
    by_contra hb
    rw [fetch_noInteger hc' h hl hn hr hb] at ht
    cases ht
  · rintro ⟨n, hb⟩
    exact ⟨Number.render n, by rw [fetch_integer hc' h hl hn hr hb]⟩
  · intro n hb
    refine ⟨Number.render n, Number.canonical_iff.2 rfl, fetch_integer hc' h hl hn hr hb, ?_⟩
    intro stripped₂ line₂ s₂ s₂' hl₂ h₂
    have hn₂ : '\n' ∉ Number.render n := notMem_render (by decide) (by decide) n
    have hr₂ : '\r' ∉ Number.render n := notMem_render (by decide) (by decide) n
    exact fetch_integer hc' h₂ hl₂ hn₂ hr₂ hb.render
  · exact fetch_noInteger hc' h hl hn hr

end

/-! ## The least integer -/

/-- A gateway that has one line to send. -/
def sending (line : Text) : Stream :=
  { unread := Utf8.encode line }

/-- The same gateway after it was asked for the result. -/
def hasSent : Stream :=
  { unread := [], sent := Utf8.encode (Request.call connected.entry .fetch).encode }

/-- The least integer is shown without needless zeros; without its sign it is none. -/
theorem leastInteger_exact :
    connected.isConnected = true ∧
    (IntegerLine "-009223372036854775808".toList "!yL-009223372036854775808".toList
        "!yL-009223372036854775808\r\n".toList ∧
      Returns Stream.peer connected (sending "!yL-009223372036854775808\r\n".toList)
        "!yL-009223372036854775808\r\n".toList hasSent ∧
      IsLong "-009223372036854775808".toList (-2 ^ 63) ∧
      connected.fetch Stream.peer (sending "!yL-009223372036854775808\r\n".toList) =
        (.ok "-9223372036854775808".toList, connected, hasSent)) ∧
    (IntegerLine "9223372036854775808".toList "!yi9223372036854775808".toList
        "!yi9223372036854775808\n".toList ∧
      Returns Stream.peer connected (sending "!yi9223372036854775808\n".toList)
        "!yi9223372036854775808\n".toList hasSent ∧
      (¬ ∃ n, IsLong "9223372036854775808".toList n) ∧
      connected.fetch Stream.peer (sending "!yi9223372036854775808\n".toList) =
        (.error (.malformed "!yi9223372036854775808".toList),
          connected.dropped (.malformed "!yi9223372036854775808".toList), hasSent)) := by
  refine ⟨rfl, ?_, ?_⟩
  · have hline : IntegerLine "-009223372036854775808".toList "!yL-009223372036854775808".toList
        "!yL-009223372036854775808\r\n".toList :=
      @IntegerLine.line _ 'L' ['\r', '\n'] (Or.inr rfl) (by decide)
    have hreturns : Returns Stream.peer connected
        (sending "!yL-009223372036854775808\r\n".toList)
        "!yL-009223372036854775808\r\n".toList hasSent := rfl
    have hlong : IsLong "-009223372036854775808".toList (-2 ^ 63) :=
      Number.long?_eq_some_iff.1 (by decide)
    obtain ⟨-, hshown, -⟩ := integers_exact rfl (by decide) (by decide) hline hreturns
    obtain ⟨t, ht, hfetch, -⟩ := hshown _ hlong
    have htext : t = "-9223372036854775808".toList := by
      rw [Number.canonical_iff.1 ht]
      cbv
    rw [htext] at hfetch
    exact ⟨hline, hreturns, hlong, hfetch⟩
  · have hline : IntegerLine "9223372036854775808".toList "!yi9223372036854775808".toList
        "!yi9223372036854775808\n".toList :=
      @IntegerLine.line _ 'i' ['\n'] (Or.inl rfl) (by decide)
    have hreturns : Returns Stream.peer connected (sending "!yi9223372036854775808\n".toList)
        "!yi9223372036854775808\n".toList hasSent := rfl
    have hnone : ¬ ∃ n, IsLong "9223372036854775808".toList n :=
      Number.long?_eq_none_iff.1 (by decide)
    obtain ⟨-, -, hlost⟩ := integers_exact rfl (by decide) (by decide) hline hreturns
    exact ⟨hline, hreturns, hnone, hlost hnone⟩

end Runpad.Gateway
