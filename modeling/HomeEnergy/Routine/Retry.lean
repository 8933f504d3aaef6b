import HomeEnergy.Backoff
import HomeEnergy.Routine

/-!
# Repeated attempts

A failing operation is tried again until it succeeds or the attempts of a policy are used up. Time
passes between two attempts, and not behind the last.

## Main results

* `Backoff.retry` — the first success, or the fault of the last attempt.
-/

namespace HomeEnergy.Backoff

variable {σ ε α : Type}

/-- Attempts from number `n` on, with so many left behind it. Each failure is told with the number
of its attempt and the wait behind it, if there is one. -/
def retryFrom (p : Backoff) (tell : Nat → Option Span → ε → Routine σ Unit)
    (op : Routine σ (Except ε α)) (n : Nat) : Nat → Routine σ (Except ε α)
  | 0 => do
    match ← op with
    | .ok a => return .ok a
    | .error e =>
      tell n none e
      return .error e
  | left + 1 => do
    match ← op with
    | .ok a => return .ok a
    | .error e =>
      tell n (some (p.delay n)) e
      .pause (p.delay n)
      retryFrom p tell op (n + 1) left

/-- Try an operation as often as the policy allows. -/
def retry (p : Backoff) (op : Routine σ (Except ε α))
    (tell : Nat → Option Span → ε → Routine σ Unit := fun _ _ _ => .done ()) :
    Routine σ (Except ε α) :=
  p.retryFrom tell op 0 (p.attempts - 1)

end HomeEnergy.Backoff
