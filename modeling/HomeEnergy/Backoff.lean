import HomeEnergy.Span

/-!
# Backing off

How often a failing operation is tried and how long to wait between two attempts. The waits double
from attempt to attempt.

## Main results

* `Backoff.attempts_pos` — there is always a first attempt.
* `Backoff.delay_nanos` — the exact wait before the longest span cuts it off.
-/

namespace HomeEnergy

/-- A policy for repeated attempts. -/
structure Backoff where
  maxAttempts : Nat := 3
  baseDelay : Span := Span.ofMillis 100
deriving DecidableEq, Repr, Inhabited

namespace Backoff

/-- One attempt and no wait. -/
def once : Backoff := ⟨1, ⟨0⟩⟩

/-- The number of attempts; a policy of none still makes one. -/
def attempts (p : Backoff) : Nat := max p.maxAttempts 1

/-- How many base delays pass after attempt `n`, counted from zero: `2 ^ n`, as long as that fits
into 32 bits, and the largest 32-bit number beyond. -/
def factor (n : Nat) : Nat := if n < 32 then Nat.pow 2 n else Nat.pow 2 32 - 1

/-- The wait after attempt `n`, counted from zero. -/
def delay (p : Backoff) (n : Nat) : Span := p.baseDelay.scaled (factor n)

theorem attempts_pos (p : Backoff) : 0 < p.attempts := by
  simp only [attempts]
  omega

theorem delay_nanos (p : Backoff) (n : Nat) :
    (p.delay n).nanos = min (p.baseDelay.nanos * factor n) Span.longest.nanos := rfl

end Backoff

end HomeEnergy
