/-
  Calls and replies stay aligned on one connection.

  * `Request` is what a program asks of a client, `Client.request` does it and
    `Client.requests` does several;
  * `Breaking` faults end the connection; `Intact` and `BreaksAt` say whether one
    has come with the first replies;
  * `Aligned` is what holds between two requests: the connection is intact and as
    many lines were taken as requests were made, or it is gone for good;
    `aligned_requests` shows it for every run;
  * `requests_aligned`: the reply to a request is its line of the stream, whatever
    was asked before, until a reply breaks the connection.
-/
import Mathlib
import Runpad.Proofs.Gateway.Stream

namespace Runpad.Gateway

/-! ## Requests -/

/-- What a program asks of a client. -/
inductive Request where
  | submit (program : Text)
  | fetch
  deriving DecidableEq, Repr

/-- The call that a request makes. -/
def Request.call (entry : EntryPoint) : Request → Call
  | .submit program => ⟨entry.target, entry.submit, [program]⟩
  | .fetch => ⟨entry.target, entry.result, []⟩

/-- What a request makes of the reply to its call: the value of a submission is
    dropped, a result is shown. -/
def Request.result (reply : Except Fault Value) : Request → Except Fault (Option Text)
  | .submit _ => reply.map fun _ => none
  | .fetch => reply.map fun value => some value.shown

namespace Client

variable {σ : Type}

/-- Does what is asked. -/
def request (peer : Peer σ) (r : Request) (s : Client × σ) :
    Except Fault (Option Text) × Client × σ :=
  match r with
  | .submit program =>
    let (result, s) := s.1.submit peer program s.2
    (result.map fun () => none, s)
  | .fetch =>
    let (result, s) := s.1.fetch peer s.2
    (result.map some, s)

/-- Does one request after the other. -/
def requests (peer : Peer σ) (rs : List Request) (s : Client × σ) : Client × σ :=
  rs.foldl (fun s r => (request peer r s).2) s

/-- Without a connection a request changes nothing. -/
theorem request_offline (peer : Peer σ) (r : Request) {s : Client × σ} {reason : Text}
    (h : s.1.offline = some reason) :
    request peer r s = (.error (.notConnected s.1.address reason), s) := by
  cases r <;> simp [request, submit, fetch, call, h, Except.map]

/-- With a connection a request is one call and one line. -/
theorem request_online (peer : Peer σ) (r : Request) {s : Client × σ} (h : s.1.offline = none) :
    request peer r s =
      (r.result (answer (peer.line (peer.send (r.call s.1.entry).encode s.2)).1),
        s.1.after (answer (peer.line (peer.send (r.call s.1.entry).encode s.2)).1),
        (peer.line (peer.send (r.call s.1.entry).encode s.2)).2) := by
  cases r with
  | submit program =>
    simp only [request, submit, call, h, Request.result, Request.call]
    cases answer _ <;> rfl
  | fetch =>
    simp only [request, fetch, call, h, Request.result, Request.call]
    cases answer _ <;> rfl

end Client

/-! ## Faults that end a connection -/

/-- The faults after which nothing that comes can be trusted. -/
inductive Breaking : Fault → Prop
  | garbled (fault : Utf8.Fault) : Breaking (.garbled fault)
  | closed : Breaking .closed
  | malformed (line : Text) : Breaking (.malformed line)

theorem breaksLink_iff {fault : Fault} : fault.breaksLink = true ↔ Breaking fault := by
  constructor
  · intro h
    cases fault with
    | garbled f => exact .garbled f
    | closed => exact .closed
    | malformed line => exact .malformed line
    | connect | notConnected | remote | unsupported => cases h
  · rintro (_ | _ | _) <;> rfl

/-- The client without its connection, for the given fault. -/
def Client.dropped (fault : Fault) (c : Client) : Client :=
  { c with offline := some fault.message }

/-- A reply leaves the client as it is, or it ends the connection. -/
theorem after_cases (reply : Except Fault Value) (c : Client) :
    (c.after reply = c ∧ ∀ fault, reply = .error fault → ¬ Breaking fault) ∨
    ∃ fault, reply = .error fault ∧ Breaking fault ∧ c.after reply = c.dropped fault := by
  cases reply with
  | ok value => exact Or.inl ⟨rfl, fun _ h => by cases h⟩
  | error fault =>
    by_cases hb : fault.breaksLink = true
    · exact Or.inr ⟨fault, rfl, breaksLink_iff.1 hb, by simp [Client.after, Client.dropped, hb]⟩
    · refine Or.inl ⟨by simp [Client.after, hb], ?_⟩
      rintro _ ⟨⟩
      rwa [← breaksLink_iff]

/-- None of the first `n` replies ends the connection. -/
def Intact (bytes : Bytes) (n : Nat) : Prop :=
  ∀ i < n, ∀ fault, Reply (byteLines bytes)[i]? (.error fault) → ¬ Breaking fault

/-- Reply `k` is the first one that ends the connection. -/
def BreaksAt (bytes : Bytes) (k : Nat) (fault : Fault) : Prop :=
  Intact bytes k ∧ Reply (byteLines bytes)[k]? (.error fault) ∧ Breaking fault

theorem Intact.succ {bytes : Bytes} {n : Nat} (h : Intact bytes n)
    (hn : ∀ fault, Reply (byteLines bytes)[n]? (.error fault) → ¬ Breaking fault) :
    Intact bytes (n + 1) := by
  intro i hi fault hr
  rcases Nat.lt_succ_iff_lt_or_eq.1 hi with hlt | rfl
  · exact h i hlt fault hr
  · exact hn fault hr

/-! ## One exchange -/

/-- A request `r` of a connected client `c` whose call is answered by `reply`: how
    things stand before, `s`, and what it comes to, `out`. -/
structure Exchange (c : Client) (reply : Except Fault Value) (r : Request) (s : Client × Stream)
    (out : Except Fault (Option Text) × Client × Stream) : Prop where
  client : s.1 = c
  sent : out.2.2.sent = s.2.sent ++ Utf8.encode (r.call c.entry).encode
  result : out.1 = r.result reply
  after : (out.2.1 = c ∧ ∀ fault, reply = .error fault → ¬ Breaking fault) ∨
    ∃ fault, reply = .error fault ∧ Breaking fault ∧ out.2.1 = c.dropped fault

/-- A request on a connection takes the next line of the stream. -/
theorem exchange {c : Client} (hc : c.offline = none) (r : Request) (s : Stream) :
    ∃ reply, Reply (byteLines s.unread)[0]? reply ∧
      Exchange c reply r (c, s) (Client.request Stream.peer r (c, s)) ∧
      byteLines (Client.request Stream.peer r (c, s)).2.2.unread = (byteLines s.unread).drop 1 := by
  obtain ⟨hline, hrest⟩ := nextLine_eq s.unread
  refine ⟨Client.answer (nextLine s.unread).1, ?_, ?_, ?_⟩
  · rw [reply_iff, hline, List.head?_eq_getElem?]
  · rw [Client.request_online Stream.peer r hc]
    exact ⟨rfl, rfl, rfl, after_cases _ c⟩
  · rw [Client.request_online Stream.peer r hc, List.drop_one]
    exact hrest

/-! ## Between two requests -/

/-- Where a client stands that had a connection on which `bytes` come, after `n`
    requests. -/
inductive Aligned (c : Client) (bytes : Bytes) (n : Nat) : Client × Stream → Prop
  | intact {s : Stream} : Intact bytes n → byteLines s.unread = (byteLines bytes).drop n →
      Aligned c bytes n (c, s)
  | broken {s : Stream} {k : Nat} {fault : Fault} : k < n → BreaksAt bytes k fault →
      Aligned c bytes n (c.dropped fault, s)

/-- What one more request does there. -/
theorem Aligned.request {c : Client} (hc : c.offline = none) {bytes : Bytes} {n : Nat}
    {s : Client × Stream} (h : Aligned c bytes n s) (r : Request) :
    (Intact bytes n ∧ ∃ reply, Reply (byteLines bytes)[n]? reply ∧
      Exchange c reply r s (Client.request Stream.peer r s)) ∨
    ∃ k < n, ∃ fault, BreaksAt bytes k fault ∧ s.1 = c.dropped fault ∧
      Client.request Stream.peer r s = (.error (.notConnected c.address fault.message), s) := by
  cases h with
  | intact hi hs =>
    obtain ⟨reply, hr, hx, -⟩ := exchange hc r _
    rw [hs, List.getElem?_drop, Nat.add_zero] at hr
    exact Or.inl ⟨hi, reply, hr, hx⟩
  | broken hk hb =>
    exact Or.inr ⟨_, hk, _, hb, rfl, Client.request_offline Stream.peer r rfl⟩

/-- One more request keeps the alignment. -/
theorem Aligned.succ {c : Client} (hc : c.offline = none) {bytes : Bytes} {n : Nat}
    {s : Client × Stream} (h : Aligned c bytes n s) (r : Request) :
    Aligned c bytes (n + 1) (Client.request Stream.peer r s).2 := by
  cases h with
  | @intact s hi hs =>
    obtain ⟨reply, hr, hx, hrest⟩ := exchange hc r s
    rw [hs, List.getElem?_drop, Nat.add_zero] at hr
    rw [hs, List.drop_drop] at hrest
    generalize Client.request Stream.peer r (c, s) = out at hx hrest
    obtain ⟨result, c', s'⟩ := out
    rcases hx.after with ⟨rfl, hn⟩ | ⟨fault, rfl, hb, rfl⟩
    · refine .intact (hi.succ fun fault hf => hn fault ?_) hrest
      rw [reply_iff] at hf hr
      rw [hr, hf]
    · exact .broken (Nat.lt_succ_self n) ⟨hi, hr, hb⟩
  | broken hk hb =>
    rw [Client.request_offline Stream.peer r rfl]
    exact .broken (Nat.lt_succ_of_lt hk) hb

theorem aligned_requests {c : Client} (hc : c.offline = none) (s : Stream) (rs : List Request) :
    Aligned c s.unread rs.length (Client.requests Stream.peer rs (c, s)) := by
  induction rs using List.reverseRecOn with
  | nil => exact .intact (fun i hi => absurd hi (Nat.not_lt_zero i)) rfl
  | append_singleton rs r ih =>
    rw [Client.requests, List.foldl_concat, List.length_append]
    exact ih.succ hc r

/-- **Calls and replies stay aligned**, whatever bytes come.  As long as no reply
    has ended the connection, a request sends its call, and what it comes to is
    said by the line at its place in the stream; the connection is lost with the
    first reply that ends it.  From then on a request sends nothing and is refused
    with that fault as the reason. -/
theorem requests_aligned {c : Client} (h : c.isConnected = true) (s : Stream)
    (earlier : List Request) (r : Request) :
    (Intact s.unread earlier.length ∧
      ∃ reply, Reply (byteLines s.unread)[earlier.length]? reply ∧
        Exchange c reply r (Client.requests Stream.peer earlier (c, s))
          (Client.request Stream.peer r (Client.requests Stream.peer earlier (c, s)))) ∨
    ∃ k < earlier.length, ∃ fault, BreaksAt s.unread k fault ∧
      (Client.requests Stream.peer earlier (c, s)).1 = c.dropped fault ∧
      Client.request Stream.peer r (Client.requests Stream.peer earlier (c, s)) =
        (.error (.notConnected c.address fault.message),
          Client.requests Stream.peer earlier (c, s)) := by
  have hc : c.offline = none := by simpa [Client.isConnected] using h
  exact (aligned_requests hc s earlier).request hc r

/-- A good reply, a line that is no text, and bytes of a third line. -/
def brokenStream : Stream :=
  { unread := Utf8.encode "!yv\n".toList ++ [0xFF, feed] ++ Utf8.encode "!ys".toList }

theorem brokenStream_aligned :
    connected.isConnected = true ∧
    ((Intact brokenStream.unread 2 ∧
      ∃ reply, Reply (byteLines brokenStream.unread)[2]? reply ∧
        Exchange connected reply .fetch
          (Client.requests Stream.peer [.submit [], .fetch] (connected, brokenStream))
          (Client.request Stream.peer .fetch
            (Client.requests Stream.peer [.submit [], .fetch] (connected, brokenStream)))) ∨
    ∃ k < 2, ∃ fault, BreaksAt brokenStream.unread k fault ∧
      (Client.requests Stream.peer [.submit [], .fetch] (connected, brokenStream)).1 =
        connected.dropped fault ∧
      Client.request Stream.peer .fetch
          (Client.requests Stream.peer [.submit [], .fetch] (connected, brokenStream)) =
        (.error (.notConnected connected.address fault.message),
          Client.requests Stream.peer [.submit [], .fetch] (connected, brokenStream))) :=
  ⟨rfl, requests_aligned rfl brokenStream [.submit [], .fetch] .fetch⟩

end Runpad.Gateway
