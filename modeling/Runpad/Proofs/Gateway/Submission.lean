/-
  What comes of the reply to a submission.

  * `ReportsSuccess` says that a line tells of a call that succeeded, with the tag
    of a type; `valueTags` are the tags of the types that a client knows, and
    `decode_unknown`: a success of any other type is not understood;
  * `Answers` is the line that a gateway answers a submission with, and where that
    leaves it; `Client.fetched` is a run from there on;
  * `submit_accepted`, `execute_accepted`: a value that is understood is ignored;
    `submit_unknown`, `execute_unknown`: a value of another type ends the run, but
    not the connection;
  * `known_values_ignored`: both together.
-/
import Mathlib
import Runpad.Proofs.Gateway.Alignment

namespace Runpad.Gateway

/-! ## Lines that tell of a success -/

/-- The tags of the types of values that a client knows. -/
def valueTags : List Char :=
  ['v', 'n', 's', 'i', 'L', 'd', 'b']

/-- The line, without its ending, has the mark of a success, the tag of a type
    and a body. -/
def ReportsSuccess (line : Text) (tag : Char) (body : Text) : Prop :=
  Text.stripEnding line = '!' :: 'y' :: tag :: body

/-- A value of a type that is not known is not understood, whatever its body. -/
theorem decode_unknown {line body : Text} {tag : Char} (h : ReportsSuccess line tag body)
    (ht : tag ∉ valueTags) : decode line = .error (.unsupported tag) := by
  simp only [valueTags, List.mem_cons, List.not_mem_nil, or_false, not_or] at ht
  obtain ⟨hv, hn, hs, hi, hl, hd, hb⟩ := ht
  rw [decode, h]
  simp [decodeStripped, decodeValue, hv, hn, hs, hi, hl, hd, hb]

/-! ## One submission -/

section

variable {σ : Type} {peer : Peer σ} {c : Client} {program line body : Text} {tag : Char} {s s' : σ}

/-- The gateway answers the submission of a program with the line, and is at `s'`
    then. -/
def Answers (peer : Peer σ) (c : Client) (program : Text) (s : σ) (line : Text) (s' : σ) : Prop :=
  peer.line (peer.send (Call.encode ⟨c.entry.target, c.entry.submit, [program]⟩) s) =
    (some (Utf8.encode line), s')

/-- A run from where the program was taken: its result is fetched. -/
def Client.fetched (peer : Peer σ) (c : Client) (s : σ) : Except Fault Outcome × Client × σ :=
  ((c.fetch peer s).1.map Outcome.ofRaw, (c.fetch peer s).2)

theorem submit_answered (hc : c.offline = none) (h : Answers peer c program s line s') :
    c.submit peer program s = ((decode line).map fun _ => (), c.after (decode line), s') := by
  have h' : peer.line (peer.send (Call.encode ⟨c.entry.target, c.entry.submit, [program]⟩) s) =
    (some (Utf8.encode line), s') := h
  simp [Client.submit, Client.call, hc, h', Client.answer]

/-- A value that is understood is ignored, whatever it is. -/
theorem submit_accepted (hc : c.offline = none) (h : Answers peer c program s line s')
    {value : Value} (hd : decode line = .ok value) :
    c.submit peer program s = (.ok (), c, s') := by
  rw [submit_answered hc h, hd]
  rfl

/-- A value of another type is a fault; the connection stays. -/
theorem submit_unknown (hc : c.offline = none) (h : Answers peer c program s line s')
    (hr : ReportsSuccess line tag body) (ht : tag ∉ valueTags) :
    c.submit peer program s = (.error (.unsupported tag), c, s') := by
  rw [submit_answered hc h, decode_unknown hr ht]
  rfl

/-! ## One run -/

theorem execute_accepted (hc : c.offline = none) (h : Answers peer c program s line s')
    {value : Value} (hd : decode line = .ok value) :
    (Client.remote peer).execute program (c, s) = c.fetched peer s' := by
  have hsubmit : (Client.remote peer).submit program (c, s) = (.ok (), c, s') :=
    submit_accepted hc h hd
  have hfetch : (Client.remote peer).fetch (c, s') = c.fetch peer s' := rfl
  unfold Client.fetched
  simp only [Remote.execute, hsubmit, hfetch]
  rcases c.fetch peer s' with ⟨result, s₂⟩
  cases result <;> rfl

theorem execute_unknown (hc : c.offline = none) (h : Answers peer c program s line s')
    (hr : ReportsSuccess line tag body) (ht : tag ∉ valueTags) :
    (Client.remote peer).execute program (c, s) = (.error (.unsupported tag), c, s') := by
  have hsubmit : (Client.remote peer).submit program (c, s) = (.error (.unsupported tag), c, s') :=
    submit_unknown hc h hr ht
  simp only [Remote.execute, hsubmit]

/-- **A submission ignores the values that a client knows**, and no others.  A
    success with such a value is taken, the connection stays, and the run goes on
    to its result; any other such success, at a gateway that is then at the same
    place, gives the same run.  A success with a value of any other type ends the
    run in a fault, with nothing fetched; the connection stays. -/
theorem known_values_ignored (hc : c.isConnected = true) (h : Answers peer c program s line s')
    (hr : ReportsSuccess line tag body) :
    (∀ value, decode line = .ok value →
      c.submit peer program s = (.ok (), c, s') ∧
      (Client.remote peer).execute program (c, s) = c.fetched peer s' ∧
      ∀ s₂ line₂ value₂, Answers peer c program s₂ line₂ s' → decode line₂ = .ok value₂ →
        (Client.remote peer).execute program (c, s₂) =
          (Client.remote peer).execute program (c, s)) ∧
    (tag ∉ valueTags →
      c.submit peer program s = (.error (.unsupported tag), c, s') ∧
      (Client.remote peer).execute program (c, s) = (.error (.unsupported tag), c, s')) := by
  have hc' : c.offline = none := by simpa [Client.isConnected] using hc
  refine ⟨fun value hd => ⟨submit_accepted hc' h hd, execute_accepted hc' h hd, ?_⟩,
    fun ht => ⟨submit_unknown hc' h hr ht, execute_unknown hc' h hr ht⟩⟩
  intro s₂ line₂ value₂ h₂ hd₂
  rw [execute_accepted hc' h₂ hd₂, execute_accepted hc' h hd]

end

/-! ## Two replies -/

/-- A gateway that has still to answer with the line, if any, and with a result. -/
def answering (line : Text) : Stream :=
  { unread := Utf8.encode (line ++ "!ys1,2\n".toList) }

/-- The same gateway after a submission. -/
def answered (program : Text) : Stream :=
  { answering [] with sent := Utf8.encode (Request.call connected.entry (.submit program)).encode }

/-- An integer is ignored. -/
theorem integer_ignored :
    connected.isConnected = true ∧
    Answers Stream.peer connected ['1', '\n'] (answering "!yi-7\r\n".toList) "!yi-7\r\n".toList
      (answered ['1', '\n']) ∧
    ReportsSuccess "!yi-7\r\n".toList 'i' ['-', '7'] ∧
    decode "!yi-7\r\n".toList = .ok (.integer (-7)) ∧
    (Client.remote Stream.peer).execute ['1', '\n'] (connected, answering "!yi-7\r\n".toList) =
      connected.fetched Stream.peer (answered ['1', '\n']) ∧
    (connected.fetched Stream.peer (answered ['1', '\n'])).1 =
      .ok ⟨['1', ',', '2'], ['1', '\n', '2']⟩ := by
  have hanswers : Answers Stream.peer connected ['1', '\n'] (answering "!yi-7\r\n".toList)
      "!yi-7\r\n".toList (answered ['1', '\n']) := rfl
  have hreports : ReportsSuccess "!yi-7\r\n".toList 'i' ['-', '7'] := rfl
  have hvalue : decode "!yi-7\r\n".toList = .ok (.integer (-7)) := by decide
  obtain ⟨htaken, -⟩ := known_values_ignored rfl hanswers hreports
  exact ⟨rfl, hanswers, hreports, hvalue, (htaken _ hvalue).2.1, by decide⟩

/-- A reference to an object is not: the run ends, and its result is not fetched. -/
theorem reference_not_ignored :
    Answers Stream.peer connected ['1', '\n'] (answering "!yro5\n".toList) "!yro5\n".toList
      (answered ['1', '\n']) ∧
    ReportsSuccess "!yro5\n".toList 'r' ['o', '5'] ∧
    (Client.remote Stream.peer).execute ['1', '\n'] (connected, answering "!yro5\n".toList) =
      (.error (.unsupported 'r'), connected, answered ['1', '\n']) ∧
    ¬ ∀ (program line body : Text) (tag : Char) (s s' : Stream),
      Answers Stream.peer connected program s line s' → ReportsSuccess line tag body →
        tag ∉ valueTags ∨ (∃ value, decode line = .ok value) →
          connected.submit Stream.peer program s = (.ok (), connected, s') := by
  have hanswers : Answers Stream.peer connected ['1', '\n'] (answering "!yro5\n".toList)
      "!yro5\n".toList (answered ['1', '\n']) := rfl
  have hreports : ReportsSuccess "!yro5\n".toList 'r' ['o', '5'] := rfl
  have htag : 'r' ∉ valueTags := by decide
  refine ⟨hanswers, hreports, execute_unknown rfl hanswers hreports htag, fun h => ?_⟩
  have htaken := h _ _ _ _ _ _ hanswers hreports (Or.inl htag)
  rw [submit_unknown rfl hanswers hreports htag] at htaken
  cases congrArg Prod.fst htaken

end Runpad.Gateway
