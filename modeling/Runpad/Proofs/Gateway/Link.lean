/-
  When a client has a connection.

  * `offline_call`, `offline_execute`: after a call, or a run, there is none iff
    there was none before or the fault that it ended in breaks the connection;
  * `address_execute`: the address stays;
  * `describe_eq_offline_iff`: the description of a client tells.
-/
import Mathlib
import Runpad.Proofs.Gateway.Alignment

namespace Runpad.Gateway.Client

variable {σ : Type} (peer : Peer σ)

/-! ## One call -/

theorem address_call (method : Text) (arguments : List Text) (c : Client) (s : σ) :
    (c.call peer method arguments s).2.1.address = c.address := by
  unfold call
  split
  · rfl
  · rcases after_cases (answer (peer.line (peer.send
      (Call.encode ⟨c.entry.target, method, arguments⟩) s)).1) c with
      ⟨hsame, -⟩ | ⟨fault, -, -, hlost⟩
    · simp only [hsame]
    · simp only [hlost]
      rfl

/-- A call leaves no connection iff there was none, or it ended in a fault that
    breaks it. -/
theorem offline_call (method : Text) (arguments : List Text) (c : Client) (s : σ) :
    (c.call peer method arguments s).2.1.offline ≠ none ↔
      c.offline ≠ none ∨
        ∃ fault, (c.call peer method arguments s).1 = .error fault ∧ Breaking fault := by
  cases hc : c.offline with
  | some reason => simp [call, hc]
  | none =>
    simp only [call, hc]
    rcases after_cases (answer (peer.line (peer.send
      (Call.encode ⟨c.entry.target, method, arguments⟩) s)).1) c with
      ⟨hsame, hno⟩ | ⟨fault, hreply, hbreaks, hlost⟩
    · rw [hsame]
      constructor
      · exact fun h => absurd hc h
      · rintro (h | ⟨fault, hreply, hbreaks⟩)
        · exact absurd rfl h
        · exact absurd hbreaks (hno fault hreply)
    · rw [hlost]
      exact ⟨fun _ => Or.inr ⟨fault, hreply, hbreaks⟩, fun _ => by simp [dropped]⟩

/-! ## One run -/

theorem map_eq_error_iff {ε α β : Type} {f : α → β} {x : Except ε α} {fault : ε} :
    x.map f = .error fault ↔ x = .error fault := by
  cases x <;> simp [Except.map]

theorem address_execute (program : Text) (s : Client × σ) :
    ((remote peer).execute program s).2.1.address = s.1.address := by
  have hsubmit := address_call peer s.1.entry.submit [program] s.1 s.2
  rcases hs : (remote peer).submit program s with ⟨taken, s₁⟩
  have hs₁ : s₁.1.address = s.1.address := by
    rw [← hsubmit, ← congrArg (·.2.1.address) hs]
    rfl
  cases taken with
  | error fault => simpa only [Remote.execute, hs] using hs₁
  | ok =>
    have hfetch := address_call peer s₁.1.entry.result [] s₁.1 s₁.2
    rcases hf : (remote peer).fetch s₁ with ⟨result, s₂⟩
    have hs₂ : s₂.1.address = s.1.address := by
      rw [← hs₁, ← hfetch, ← congrArg (·.2.1.address) hf]
      rfl
    cases result <;> simpa only [Remote.execute, hs, hf] using hs₂

theorem offline_submit (program : Text) (s : Client × σ) :
    ((remote peer).submit program s).2.1.offline ≠ none ↔
      s.1.offline ≠ none ∨
        ∃ fault, ((remote peer).submit program s).1 = .error fault ∧ Breaking fault := by
  have h := offline_call peer s.1.entry.submit [program] s.1 s.2
  simp only [remote, submit, map_eq_error_iff]
  exact h

theorem offline_fetch (s : Client × σ) :
    ((remote peer).fetch s).2.1.offline ≠ none ↔
      s.1.offline ≠ none ∨ ∃ fault, ((remote peer).fetch s).1 = .error fault ∧ Breaking fault := by
  have h := offline_call peer s.1.entry.result [] s.1 s.2
  simp only [remote, fetch, map_eq_error_iff]
  exact h

/-- A run leaves no connection iff there was none, or it ended in a fault that
    breaks it. -/
theorem offline_execute (program : Text) (s : Client × σ) :
    ((remote peer).execute program s).2.1.offline ≠ none ↔
      s.1.offline ≠ none ∨
        ∃ fault, ((remote peer).execute program s).1 = .error fault ∧ Breaking fault := by
  have hsubmit := offline_submit peer program s
  rcases hs : (remote peer).submit program s with ⟨taken, s₁⟩
  rw [hs] at hsubmit
  cases taken with
  | error fault =>
    simp only [Remote.execute, hs]
    simpa using hsubmit
  | ok =>
    -- A program that was taken has broken nothing, so only the result can.
    have hkept : s₁.1.offline ≠ none ↔ s.1.offline ≠ none := by simpa using hsubmit
    have hfetch := offline_fetch peer s₁
    rcases hf : (remote peer).fetch s₁ with ⟨result, s₂⟩
    rw [hf] at hfetch
    simp only [Remote.execute, hs, hf]
    cases result with
    | error fault => simpa [hkept] using hfetch
    | ok raw => simpa [hkept] using hfetch

/-! ## The description -/

/-- The description shows that there is no connection iff there is none. -/
theorem describe_eq_offline_iff (c : Client) :
    (c.describe = "gateway ".toList ++ c.address ++ " (offline)".toList ↔ c.offline ≠ none) ∧
      (c.describe = "gateway ".toList ++ c.address ↔ c.offline = none) := by
  have hmark : " (offline)".toList ≠ [] := by decide
  cases hc : c.offline with
  | none =>
    have hplain : c.describe = "gateway ".toList ++ c.address := by
      unfold describe isConnected
      rw [hc]
      exact List.append_nil _
    rw [hplain]
    refine ⟨iff_of_false (fun h => ?_) (by simp), iff_of_true rfl rfl⟩
    exact hmark (List.self_eq_append_right.1 h)
  | some reason =>
    have hmarked : c.describe = "gateway ".toList ++ c.address ++ " (offline)".toList := by
      unfold describe isConnected
      rw [hc]
      rfl
    rw [hmarked]
    refine ⟨iff_of_true rfl (by simp), iff_of_false (fun h => ?_) (by simp)⟩
    exact hmark (List.append_right_eq_self.1 h)

end Runpad.Gateway.Client
