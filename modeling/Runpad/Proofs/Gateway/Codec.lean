/-
  Reply lines that are read as they were meant.

  * `Text.endings` are the endings of a line, none among them;
    `Text.stripEnding_append`: what is left of a line without them is the line;
  * `Written` is how a gateway writes what a call has come to, and
    `decode_written` that it is read back;
  * `replies_read_back`: so it is with each ending, and no ending matters to any
    other line either;
  * `Saying` is what a gateway can say in a reply to a run, `Saying.line` how it
    says it; `decode_line`: whatever it says is understood.
-/
import Mathlib
import Runpad.Gateway.Reply
import Runpad.Proofs.Number.Decimal

namespace Runpad

/-! ## Endings -/

namespace Text

/-- How a line can end. -/
def endings : List Text :=
  [[], ['\n'], ['\r', '\n']]

theorem dropEnd_append (c : Char) (l : Text) : dropEnd c (l ++ [c]) = l := by
  simp [dropEnd]

theorem dropEnd_of_ne {c : Char} {l : Text} (h : l.getLast? ≠ some c) : dropEnd c l = l :=
  if_neg h

theorem getLast?_ne_of_notMem {c : Char} {l : Text} (h : c ∉ l) : l.getLast? ≠ some c :=
  fun hl => h (List.mem_of_getLast? hl)

/-- A line that does not end in a part of an ending is left. -/
theorem stripEnding_append {l ending : Text} (hn : l.getLast? ≠ some '\n')
    (hr : l.getLast? ≠ some '\r') (he : ending ∈ endings) : stripEnding (l ++ ending) = l := by
  simp only [endings, List.mem_cons, List.not_mem_nil, or_false] at he
  unfold stripEnding
  rcases he with rfl | rfl | rfl
  · rw [List.append_nil, dropEnd_of_ne hn, dropEnd_of_ne hr]
  · rw [dropEnd_append, dropEnd_of_ne hr]
  · rw [← List.singleton_append, ← List.append_assoc, dropEnd_append, dropEnd_append]

end Text

namespace Gateway

/-! ## What a gateway writes -/

/-- How a gateway writes what a call has come to: a value behind the mark of its
    type, or the message of an error. -/
inductive Written : Except Fault Value → Text → Prop
  | void : Written (.ok .void) "!yv".toList
  | null : Written (.ok .null) "!yn".toList
  | text (content : Text) : Written (.ok (.text content)) ("!ys".toList ++ escape content)
  | integer {n : Int} {tag : Char} : tag = 'i' ∨ tag = 'L' → Number.least ≤ n →
      n ≤ Number.greatest → Written (.ok (.integer n)) ("!y".toList ++ tag :: Number.render n)
  | boolean (b : Bool) :
      Written (.ok (.boolean b)) ("!yb".toList ++ (if b then "true" else "false").toList)
  | error (message : Text) :
      Written (.error (.remote message)) ("!xs".toList ++ escape message)

theorem notMem_render {c : Char} (hm : c ≠ '-') (hd : Number.isDigit c = false) (n : Int) :
    c ∉ Number.render n := by
  intro h
  rcases Number.mem_render h with hc | hc
  · exact hm hc
  · rw [hd] at hc
    cases hc

section

variable {reply : Except Fault Value} {line ending : Text}

/-- No line break is in what is written. -/
theorem Written.oneLine (h : Written reply line) : '\n' ∉ line ∧ '\r' ∉ line := by
  cases h with
  | void | null => decide
  | text t | error t =>
    obtain ⟨hn, hr⟩ := escape_oneLine t
    constructor <;> simp [hn, hr]
  | @integer n tag htag =>
    have hn : '\n' ∉ Number.render n := notMem_render (by decide) (by decide) n
    have hr : '\r' ∉ Number.render n := notMem_render (by decide) (by decide) n
    rcases htag with rfl | rfl <;> constructor <;> simp [hn, hr]
  | boolean b => cases b <;> decide

theorem decodeStripped_written (h : Written reply line) : decodeStripped line = reply := by
  cases h with
  | void | null => rfl
  | text t => simp [decodeStripped, decodeValue, unescape_escape]
  | @integer n tag htag hl hg =>
    have hread := Number.long?_render hl hg
    rcases htag with rfl | rfl <;> simp [decodeStripped, decodeValue, hread]
  | boolean b => cases b <;> rfl
  | error t => simp [decodeStripped, decodeError, unescape_escape]

/-- No ending matters to a line that does not end in a part of one. -/
theorem decode_append (hn : line.getLast? ≠ some '\n') (hr : line.getLast? ≠ some '\r')
    (he : ending ∈ Text.endings) : decode (line ++ ending) = decodeStripped line := by
  rw [decode, Text.stripEnding_append hn hr he]

/-- What is written is read back, with each ending. -/
theorem decode_written (h : Written reply line) (he : ending ∈ Text.endings) :
    decode (line ++ ending) = reply := by
  obtain ⟨hn, hr⟩ := h.oneLine
  rw [decode_append (Text.getLast?_ne_of_notMem hn) (Text.getLast?_ne_of_notMem hr) he,
    decodeStripped_written h]

/-- **Replies read back as they were written**, with each ending: texts with any
    line breaks and backslashes in them or at their end, all integers of 64 bits,
    truth values, no value, and errors.  Nor does an ending matter to any other
    line, if the line itself does not end in a part of one. -/
theorem replies_read_back (he : ending ∈ Text.endings) :
    (∀ reply line, Written reply line → decode (line ++ ending) = reply) ∧
      ∀ line : Text, line.getLast? ≠ some '\n' → line.getLast? ≠ some '\r' →
        decode (line ++ ending) = decode line := by
  refine ⟨fun reply line h => decode_written h he, fun line hn hr => ?_⟩
  have hnone : decode (line ++ []) = decodeStripped line := decode_append hn hr (by decide)
  rw [List.append_nil] at hnone
  rw [decode_append hn hr he, hnone]

/-- The least integer, a text that ends like a line, and a line of no meaning. -/
theorem edgeReplies_read_back :
    ['\r', '\n'] ∈ Text.endings ∧
    decode "!yL-9223372036854775808\r\n".toList = .ok (.integer (-9223372036854775808)) ∧
    decode ("!ys".toList ++ escape ['a', '\\', '\r', '\n'] ++ ['\r', '\n']) =
      .ok (.text ['a', '\\', '\r', '\n']) ∧
    decode "!xs\\r\r\n".toList = .error (.remote ['\r']) ∧
    decode "!y\r\n".toList = decode "!y".toList := by
  have hending : ['\r', '\n'] ∈ Text.endings := by decide
  obtain ⟨hread, hother⟩ := replies_read_back hending
  refine ⟨hending, ?_, ?_, ?_, ?_⟩
  · have hline : "!yL-9223372036854775808".toList =
        "!y".toList ++ 'L' :: Number.render (-9223372036854775808) := by cbv
    rw [show "!yL-9223372036854775808\r\n".toList =
      "!yL-9223372036854775808".toList ++ ['\r', '\n'] by decide, hline]
    exact hread _ _ (.integer (Or.inr rfl) (by decide) (by decide))
  · exact hread _ _ (.text _)
  · exact hread _ _ (.error ['\r'])
  · exact hother "!y".toList (by decide) (by decide)

end

/-! ## What is said of a run -/

/-- What a gateway says in a reply to a run: that a call was done, a text, or an
    error. -/
inductive Saying where
  | done
  | text (value : Text)
  | error (message : Text)
  deriving DecidableEq, Repr

/-- The line in which it says so. -/
def Saying.line : Saying → Text
  | .done => "!yv".toList
  | .text value => "!ys".toList ++ escape value
  | .error message => "!xs".toList ++ escape message

/-- What is understood. -/
def Saying.meaning : Saying → Except Fault Value
  | .done => .ok .void
  | .text value => .ok (.text value)
  | .error message => .error (.remote message)

/-- It is said as it is written. -/
theorem Saying.written (s : Saying) : Written s.meaning s.line := by
  cases s with
  | done => exact .void
  | text value => exact .text value
  | error message => exact .error message

/-- **Whatever a gateway says is understood.** -/
theorem decode_line (s : Saying) {ending : Text} (h : ending ∈ Text.endings) :
    decode (s.line ++ ending) = s.meaning :=
  decode_written s.written h

end Gateway

end Runpad
