import HomeEnergy.Proofs.Routine.Attempts
import HomeEnergy.Proofs.Routine.Retry
import HomeEnergy.Proofs.Span.Words
import HomeEnergy.Proofs.Word.Shift
import Mathlib.Algebra.Ring.Nat

/-!
# Doubling waits

The waits of a policy double from attempt to attempt until the bit that counts them leaves its word,
or the longest span cuts them off. Where neither happens, the waits of attempts that all fail add up
to the base delay, `2 ^ (n - 1) - 1` times, for `n` attempts.

## Main results

* `Backoff.span_wordDelay` — the wait, computed in words of 32 and 64 bits.
* `Backoff.resting_eq` — what the first waits add up to.
* `Backoff.rested_of_exhausted` — for how long attempts rest that all fail.
* `Backoff.delay_doubles` — the exact waits, their order and their sum.
-/

namespace HomeEnergy

open Routine (Wait)

/-- The span of so many nanoseconds, or the longest one if it has fewer. -/
def Span.ofNanos (n : Nat) : Span := if Span.longest.nanos < n then Span.longest else ⟨n⟩

/-- A multiple is a span of that many nanoseconds. -/
theorem Span.scaled_eq_ofNanos (d : Span) (factor : Nat) :
    d.scaled factor = Span.ofNanos (d.nanos * factor) := by
  rw [scaled, ofNanos]
  split
  · next h => rw [Nat.min_eq_right (Nat.le_of_lt h)]
  · next h => rw [Nat.min_eq_left (Nat.le_of_not_lt h)]

variable {δ ε α : Type}

theorem Trials.devicePart_lawful : (devicePart : Routine.Part (Trials δ ε α) δ).Lawful where
  get_set _ _ := rfl
  set_get _ := rfl
  set_set _ _ _ := rfl

/-- For how many nanoseconds attempts rest between their calls. -/
def Trials.rested (ws : List (Wait (Trials δ ε α))) : Nat := ((rests ws).map (·.2.nanos)).sum

namespace Backoff

variable (p : Backoff)

/-! ## The wait in words -/

/-- One, moved to the left by so many bits, if a word of 32 bits has so many. -/
def shifted? (places : UInt32) : Option UInt32 := if places < 32 then some (1 <<< places) else none

/-- How many base delays pass after an attempt, in a word. -/
def wordFactor (attempt : UInt32) : UInt32 := (shifted? attempt).getD 0xFFFFFFFF

/-- The wait after an attempt, in words. -/
def wordDelay (base : SpanWords) (attempt : UInt32) : SpanWords := base.scaled (wordFactor attempt)

theorem factor_of_le {n : Nat} (h : n ≤ 31) : factor n = 2 ^ n := if_pos (Nat.lt_succ_of_le h)

theorem factor_of_lt {n : Nat} (h : 32 ≤ n) : factor n = 2 ^ 32 - 1 := if_neg (Nat.not_lt.2 h)

/-- The bit does not leave the word before it has been moved 32 times. -/
theorem toNat_wordFactor (attempt : UInt32) :
    (wordFactor attempt).toNat = factor attempt.toNat := by
  rw [wordFactor, shifted?]
  by_cases h : attempt < 32
  · have hlt : attempt.toNat < 32 := UInt32.lt_iff_toNat_lt.1 h
    rw [if_pos h, Option.getD_some, factor_of_le (Nat.le_of_lt_succ hlt), Words.toNat_bit32 hlt]
  · have hle : 32 ≤ attempt.toNat := Nat.le_of_not_lt fun hlt => h (UInt32.lt_iff_toNat_lt.2 hlt)
    rw [if_neg h, Option.getD_none, factor_of_lt hle]
    rfl

theorem span_wordDelay {base : SpanWords} (h : base.span = p.baseDelay) (attempt : UInt32) :
    (wordDelay base attempt).span = p.delay attempt.toNat := by
  rw [wordDelay, SpanWords.span_scaled, toNat_wordFactor, h, delay]

/-! ## The order of the waits -/

theorem factor_mono {a b : Nat} (h : a ≤ b) : factor a ≤ factor b := by
  by_cases hb : b ≤ 31
  · rw [factor_of_le hb, factor_of_le (Nat.le_trans h hb)]
    exact Nat.pow_le_pow_right (by decide) h
  · rw [factor_of_lt (Nat.lt_of_not_le hb)]
    by_cases ha : a ≤ 31
    · have hpow : 2 ^ a ≤ 2 ^ 31 := Nat.pow_le_pow_right (by decide) ha
      rw [factor_of_le ha]
      omega
    · exact Nat.le_of_eq (factor_of_lt (Nat.lt_of_not_le ha))

theorem delay_mono {a b : Nat} (h : a ≤ b) : (p.delay a).nanos ≤ (p.delay b).nanos := by
  have hmul := Nat.mul_le_mul_left p.baseDelay.nanos (factor_mono h)
  rw [delay_nanos, delay_nanos]
  omega

/-! ## The sum of the waits -/

/-- What the first waits add up to, in nanoseconds. -/
def resting (n : Nat) : Nat := ((List.range n).map fun i => (p.delay i).nanos).sum

theorem resting_succ (n : Nat) : p.resting (n + 1) = p.resting n + (p.delay n).nanos := by
  rw [resting, List.range_succ, List.map_append, List.sum_append, List.map_singleton,
    List.sum_singleton]
  rfl

/-- Each wait is one base delay longer than all waits before it. -/
theorem resting_eq {n : Nat} (hn : n ≤ 32)
    (hfits : p.baseDelay.nanos * 2 ^ n ≤ Span.longest.nanos) :
    p.resting n = p.baseDelay.nanos * (2 ^ n - 1) := by
  induction n with
  | zero => rfl
  | succ n ih =>
      have hdouble : p.baseDelay.nanos * 2 ^ (n + 1)
          = p.baseDelay.nanos * 2 ^ n + p.baseDelay.nanos * 2 ^ n := by
        rw [Nat.pow_succ, Nat.mul_two, Nat.mul_add]
      have hdelay : (p.delay n).nanos = p.baseDelay.nanos * 2 ^ n := by
        rw [delay_nanos, factor_of_le (by omega)]
        omega
      have hpow : 0 < 2 ^ n := Nat.two_pow_pos n
      have hsum : 2 ^ n - 1 + 2 ^ n = 2 ^ (n + 1) - 1 := by
        rw [Nat.pow_succ]
        omega
      rw [resting_succ, ih (by omega) (by omega), hdelay, ← Nat.mul_add, hsum]

variable {p}

/-- Attempts that all fail rest after each of them but the last. -/
theorem rested_of_exhausted {op : Routine δ (Except ε α)} {tell : Nat → Option Span → ε → δ → δ}
    {w w' : Trials δ ε α} {ws : List (Wait (Trials δ ε α))} {e : ε}
    (h : (p.retry (Trials.watched op) (Trials.telling tell)).EndsAfter Trials.Apart w ws (.error e)
      w') :
    Trials.rested ws = p.resting (p.attempts - 1) := by
  have hpos := p.attempts_pos
  obtain ⟨failures, hfail⟩ := failRow_of_endsAfter (by omega) h
  rw [Trials.rested, hfail.waits, hfail.last e rfl, resting, List.map_map]
  congr 1
  apply List.map_congr_left
  intro i _
  rw [Function.comp_apply, Nat.zero_add]

/-- The attempts of an operation that never succeeds come to an end with a fault. -/
theorem exists_exhausted {op : Routine δ (Except ε α)} (hop : ∀ s a s', ¬ op.Ends s (.ok a) s')
    (p : Backoff) (tell : Nat → Option Span → ε → δ → δ) (w : Trials δ ε α) :
    ∃ ws e w', (p.retry (Trials.watched op) (Trials.telling tell)).EndsAfter Trials.Apart w ws
      (.error e) w' := by
  have hends := Routine.ends_alone (p.retry (Trials.watched op) (Trials.telling tell)) 0 w
  have hamid := Routine.endsAmid_alone Trials.interference_apart
    (p.retry (Trials.watched op) (Trials.telling tell)) 0 w
  obtain ⟨ws, hws⟩ := (Routine.endsAmid_iff_endsAfter Trials.interference_apart).1 hamid
  obtain ⟨_, mid, -, ⟨-, a, -, hok⟩ | ⟨-, e, _, hr, -⟩⟩ := ends_retry hends
  · obtain ⟨_, w₁, -, hcall⟩ := Routine.ends_do.1 hok
    obtain ⟨answer, w₂, hwithin, hanswer⟩ := Routine.ends_do.1 hcall
    obtain ⟨_, _, -, rfl, -⟩ := Routine.ends_do.1 hanswer
    obtain ⟨s', hop', -⟩ := (Routine.ends_within Trials.devicePart_lawful).1 hwithin
    exact absurd hop' (hop _ _ _)
  · rw [hr] at hws
    exact ⟨ws, e, _, hws⟩

/-! ## Doubling -/

/-- What the waits of a policy are, and what they come to. -/
structure Doubling (p : Backoff) : Prop where
  /-- The words of a wait are computed from the words of the base delay. -/
  words : ∀ attempt : UInt32,
    wordDelay (.ofSpan p.baseDelay) attempt = .ofSpan (p.delay attempt.toNat)
  /-- As long as there is a bit for the attempt, it counts the base delays. -/
  early : ∀ n ≤ 31, p.delay n = .ofNanos (p.baseDelay.nanos * 2 ^ n)
  /-- From then on the waits are all the same. -/
  late : ∀ n ≥ 32, p.delay n = .ofNanos (p.baseDelay.nanos * (2 ^ 32 - 1))
  /-- No wait is longer than a later one. -/
  mono : ∀ m n, m ≤ n → (p.delay m).nanos ≤ (p.delay n).nanos
  /-- The attempts of an operation that never succeeds come to an end with a fault, and attempts
  that end so have rested for the sum of all waits. -/
  total : p.attempts ≤ 33 → p.baseDelay.nanos * 2 ^ (p.attempts - 1) ≤ Span.longest.nanos →
    ∀ {δ ε α : Type} (op : Routine δ (Except ε α)) (tell : Nat → Option Span → ε → δ → δ)
      (w : Trials δ ε α),
      ((∀ s a s', ¬ op.Ends s (.ok a) s') →
        ∃ ws e w', (p.retry (Trials.watched op) (Trials.telling tell)).EndsAfter Trials.Apart w ws
          (.error e) w') ∧
      ∀ ws e w', (p.retry (Trials.watched op) (Trials.telling tell)).EndsAfter Trials.Apart w ws
          (.error e) w' →
        Trials.rested ws = p.baseDelay.nanos * (2 ^ (p.attempts - 1) - 1)

/-- The waits of a policy double, up to the width of a word and the longest span. -/
theorem delay_doubles (p : Backoff) (hp : p.baseDelay.nanos ≤ Span.longest.nanos) : p.Doubling where
  words attempt := by
    have hdelay : (p.delay attempt.toNat).nanos ≤ Span.longest.nanos := Nat.min_le_right _ _
    apply SpanWords.span_injective
    rw [p.span_wordDelay (SpanWords.span_ofSpan hp), SpanWords.span_ofSpan hdelay]
  early n hn := by rw [delay, Span.scaled_eq_ofNanos, factor_of_le hn]
  late n hn := by rw [delay, Span.scaled_eq_ofNanos, factor_of_lt hn]
  mono _ _ h := p.delay_mono h
  total hfew hfits _ _ _ op tell w := by
    refine ⟨fun hop => exists_exhausted hop p tell w, ?_⟩
    intro ws e w' h
    rw [rested_of_exhausted h, p.resting_eq (by omega) hfits]

/-- An operation that never succeeds. -/
def mute : Routine Unit (Except String Nat) := return .error "no answer"

/-- With 33 attempts and a base delay of one second, an operation that never succeeds costs 136
years. -/
theorem delay_doubles_seconds :
    (Span.ofSeconds 1).nanos ≤ Span.longest.nanos ∧
    (wordDelay ⟨1, 0, by decide⟩ 40).span = Span.ofSeconds 4294967295 ∧
    ∃ ws e w', (Backoff.retry ⟨33, .ofSeconds 1⟩ (Trials.watched mute)
        (Trials.telling fun _ _ _ => id)).EndsAfter Trials.Apart ⟨(), []⟩ ws (.error e) w' ∧
      Trials.rested ws = (Span.ofSeconds 4294967295).nanos := by
  have hshort : (Span.ofSeconds 1).nanos ≤ Span.longest.nanos := by decide
  have hdoubling := delay_doubles ⟨33, .ofSeconds 1⟩ hshort
  refine ⟨hshort, ?_, ?_⟩
  · decide
  · have hmute : ∀ s a s', ¬ mute.Ends s (.ok a) s' := by
      rintro _ _ _ ⟨hresult, -⟩
      cases hresult
    obtain ⟨hends, hrested⟩ := hdoubling.total (by decide) (by decide) mute (fun _ _ _ => id)
      ⟨(), []⟩
    obtain ⟨ws, e, w', h⟩ := hends hmute
    exact ⟨ws, e, w', h, hrested ws e w' h⟩

end Backoff

end HomeEnergy
