import HomeEnergy.Proofs.Routine.Ends
import HomeEnergy.Routine.Retry

/-!
# How repeated attempts end

A row of repeated attempts is a row of failures, each of them told and followed by a wait. It ends
with a success, as soon as there is one, or with the failure that uses up the attempts.

## Main results

* `Backoff.ends_retryFrom`, `Backoff.ends_retry` — the two ways in which attempts end.
-/

namespace HomeEnergy.Backoff

variable {σ ε α : Type}

section Attempts

variable (p : Backoff) (tell : Nat → Option Span → ε → Routine σ Unit) (op : Routine σ (Except ε α))

/-- From attempt `n` on, attempts fail one after the other, and each is followed by another one. -/
def Failing : Nat → List ε → σ → σ → Prop
  | _, [], s, s' => s = s'
  | n, e :: es, s, s' => ∃ s₁ s₂, op.Ends s (.error e) s₁ ∧
      (tell n (some (p.delay n)) e).Ends s₁ () s₂ ∧ Failing (n + 1) es s₂ s'

/-- The two ways in which attempts end that begin with attempt `n` and may be followed by `left`
more: behind some failures with a success, or with a failure behind which none is left. -/
def Settled (n left : Nat) (s : σ) (r : Except ε α) (s' : σ) : Prop :=
  ∃ es mid, p.Failing tell op n es s mid ∧
    ((es.length ≤ left ∧ ∃ a, r = .ok a ∧ op.Ends mid (.ok a) s') ∨
      (es.length = left ∧ ∃ e s₁, r = .error e ∧ op.Ends mid (.error e) s₁ ∧
        (tell (n + left) none e).Ends s₁ () s'))

variable {p tell op}

/-- A failure that is not the last one, in front of all that comes behind it. -/
private theorem settled_cons {n left : Nat} {s s₁ s₂ s' : σ} {e : ε} {r : Except ε α}
    (hop : op.Ends s (.error e) s₁) (htell : (tell n (some (p.delay n)) e).Ends s₁ () s₂)
    (h : p.Settled tell op (n + 1) left s₂ r s') : p.Settled tell op n (left + 1) s r s' := by
  obtain ⟨es, mid, hes, hend⟩ := h
  refine ⟨e :: es, mid, ⟨s₁, s₂, hop, htell, hes⟩, ?_⟩
  rcases hend with ⟨hle, hok⟩ | ⟨heq, hlast⟩
  · left
    exact ⟨by simpa using hle, hok⟩
  · right
    refine ⟨by simpa using heq, ?_⟩
    have hn : n + (left + 1) = n + 1 + left := by omega
    rw [hn]
    exact hlast

theorem ends_retryFrom {n left : Nat} {s s' : σ} {r : Except ε α}
    (h : (p.retryFrom tell op n left).Ends s r s') : p.Settled tell op n left s r s' := by
  induction left generalizing n s with
  | zero =>
      obtain ⟨o, s₁, hop, hrest⟩ := Routine.ends_do.1 h
      refine ⟨[], s, rfl, ?_⟩
      cases o with
      | ok a =>
          obtain ⟨rfl, rfl⟩ := hrest
          exact .inl ⟨Nat.le_refl _, a, rfl, hop⟩
      | error e =>
          obtain ⟨_, s₂, htell, rfl, rfl⟩ := Routine.ends_do.1 hrest
          exact .inr ⟨rfl, e, s₁, rfl, hop, htell⟩
  | succ left ih =>
      obtain ⟨o, s₁, hop, hrest⟩ := Routine.ends_do.1 h
      cases o with
      | ok a =>
          obtain ⟨rfl, rfl⟩ := hrest
          exact ⟨[], s, rfl, .inl ⟨Nat.zero_le _, a, rfl, hop⟩⟩
      | error e =>
          obtain ⟨_, s₂, htell, hpause⟩ := Routine.ends_do.1 hrest
          obtain ⟨_, s₃, hwait, hmore⟩ := Routine.ends_do.1 hpause
          have hs : s₂ = s₃ := Routine.ends_pause.1 hwait
          subst hs
          exact settled_cons hop htell (ih hmore)

/-- Attempts under a policy end with a success behind fewer failures than there are attempts, or
with the fault of the last attempt. -/
theorem ends_retry {s s' : σ} {r : Except ε α} (h : (p.retry op tell).Ends s r s') :
    p.Settled tell op 0 (p.attempts - 1) s r s' :=
  ends_retryFrom h

end Attempts

end HomeEnergy.Backoff
