/-!
# Spans of time

A span is a whole number of nanoseconds, at most `2 ^ 64` seconds less one nanosecond.

## Main results

* `Span.millis_ofMillis` — the milliseconds that cover a whole number of them.
* `Span.scaled` — a multiple, cut off at the longest span.
-/

namespace HomeEnergy

/-- A span of time. -/
structure Span where
  nanos : Nat
deriving DecidableEq, Repr, Inhabited

namespace Span

/-- Nanoseconds in a second. -/
def perSecond : Nat := 1000000000

/-- Nanoseconds in a millisecond. -/
def perMilli : Nat := 1000000

/-- The longest span. -/
def longest : Span := ⟨Nat.pow 2 64 * perSecond - 1⟩

/-- A span of whole seconds. -/
def ofSeconds (s : Nat) : Span := ⟨s * perSecond⟩

/-- A span of whole milliseconds. -/
def ofMillis (ms : Nat) : Span := ⟨ms * perMilli⟩

/-- The whole seconds of a span. -/
def seconds (d : Span) : Nat := d.nanos / perSecond

/-- The nanoseconds beyond the whole seconds. -/
def subsecond (d : Span) : Nat := d.nanos % perSecond

theorem seconds_subsecond (d : Span) : d.seconds * perSecond + d.subsecond = d.nanos := by
  rw [seconds, subsecond, Nat.mul_comm]
  exact Nat.div_add_mod _ _

/-- The whole milliseconds that cover a span. Timers have this step. -/
def millis (d : Span) : Nat := (d.nanos + (perMilli - 1)) / perMilli

@[simp] theorem millis_ofMillis (ms : Nat) : (ofMillis ms).millis = ms := by
  simp only [millis, ofMillis, perMilli]
  omega

/-- A multiple of a span, or the longest span if the multiple is longer. -/
def scaled (d : Span) (factor : Nat) : Span := ⟨min (d.nanos * factor) longest.nanos⟩

end Span

end HomeEnergy
