import HomeEnergy.Span

/-!
# Tickers

A ticker tells a loop when to start its next round: on a grid of instants that lie a period apart.
A round that outlasts its period is followed by one round at once; the other instants that it missed
are left out, and the rounds after that are on the grid again.

## Main results

* `Ticker.isDue` — when a tick can be taken.
* `Ticker.nextDeadline` — the deadline behind one that is taken, in time or late.
-/

namespace HomeEnergy

/-- A ticker: its period and the instant of its next tick, in nanoseconds. -/
structure Ticker where
  period : Nat
  deadline : Nat
deriving DecidableEq, Repr, Inhabited

namespace Ticker

/-- A delay up to this counts as punctual. -/
def tolerance : Nat := 5 * Span.perMilli

/-- The ticker of a loop that starts at an instant: its first tick is one period later. -/
def start (period : Span) (now : Nat) : Ticker := ⟨period.nanos, now + period.nanos⟩

/-- Clocks fire on whole milliseconds; the first of them at or behind an instant. -/
def fireAt (instant : Nat) : Nat := (Span.mk instant).millis * Span.perMilli

/-- Whether the next tick is due. -/
def isDue (t : Ticker) (now : Nat) : Bool := fireAt t.deadline ≤ now

/-- The deadline behind one that is taken at an instant: a period later, if it was taken in time,
and otherwise the next instant of the grid. -/
def nextDeadline (t : Ticker) (now : Nat) : Nat :=
  if now ≤ t.deadline + tolerance then t.deadline + t.period
  else now + t.period - (now - t.deadline) % t.period

/-- The ticker after a tick that is taken at an instant. -/
def next (t : Ticker) (now : Nat) : Ticker := { t with deadline := t.nextDeadline now }

theorem le_fireAt (instant : Nat) : instant ≤ fireAt instant := by
  simp only [fireAt, Span.millis, Span.perMilli]
  omega

end Ticker

end HomeEnergy
