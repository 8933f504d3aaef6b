import HomeEnergy.Proofs.Routine.Loop
import Mathlib.Data.Nat.Order.Lemmas

/-!
# Rounds on a grid

The ticks of a ticker lie on a grid: the instants that are a multiple of its period away from its
start. A round that outlasts its period is followed by one at once, and all other instants of the
grid that it has covered are dropped. The clock shows whole milliseconds only, so that an instant of
the grid is seen at `Ticker.fireAt` of it; on whole milliseconds that is the instant itself.

## Main results

* `Ticker.lt_gridAfter`, `Ticker.gridAfter_le` — the first instant of the grid behind another one.
* `Ticker.nextDeadline_eq_gridAfter` — that is where a ticker goes on, in time or late.
* `Timeline.OnGrid` — the rounds of a timeline start where the grid says.
* `Timeline.OnGrid.slots` — so every slot of the grid has one start, or is covered by one round.
-/

namespace HomeEnergy

namespace Ticker

/-- The first instant of a grid behind another instant. -/
def gridAfter (start period instant : Nat) : Nat :=
  start + ((instant - start) / period + 1) * period

theorem lt_gridAfter {start period x : Nat} (hp : 0 < period) (h : start ≤ x) :
    x < gridAfter start period x := by
  unfold gridAfter
  have hlt := Nat.lt_div_mul_add (a := x - start) hp
  have hmul : ((x - start) / period + 1) * period = (x - start) / period * period + period := by
    rw [Nat.add_mul, Nat.one_mul]
  omega

/-- An instant between two neighbours of the grid has the second of them behind it. -/
theorem gridAfter_of_slot {start period x n : Nat} (hle : start + n * period ≤ x)
    (hlt : x < start + (n + 1) * period) : gridAfter start period x = start + (n + 1) * period := by
  have hlow : n * period ≤ x - start := by omega
  have hhigh : x - start < (n + 1) * period := by omega
  have hdiv : (x - start) / period = n := Nat.div_eq_of_lt_le hlow hhigh
  unfold gridAfter
  rw [hdiv]

/-- No instant of the grid comes between an instant and the one of the grid behind it. -/
theorem gridAfter_le {start period x n : Nat} (hp : 0 < period) (h : start ≤ x)
    (hx : x < start + n * period) : gridAfter start period x ≤ start + n * period := by
  have hq : (x - start) / period < n := by
    rw [Nat.div_lt_iff_lt_mul hp]
    omega
  have hmul : ((x - start) / period + 1) * period ≤ n * period := Nat.mul_le_mul_right period hq
  unfold gridAfter
  omega

/-- The deadline behind one of the grid that is taken, in time or late, is the next instant of the
grid, for a period that is longer than what counts as punctual. -/
theorem nextDeadline_eq_gridAfter {t : Ticker} {start now n : Nat} (hp : tolerance < t.period)
    (hd : t.deadline = start + n * t.period) (hnow : t.deadline ≤ now) :
    t.nextDeadline now = gridAfter start t.period now := by
  unfold nextDeadline
  by_cases hlate : now ≤ t.deadline + tolerance
  · have hmul : (n + 1) * t.period = n * t.period + t.period := by
      rw [Nat.add_mul, Nat.one_mul]
    have hslot : gridAfter start t.period now = start + (n + 1) * t.period := by
      apply gridAfter_of_slot
      · omega
      · omega
    rw [if_pos hlate, hslot]
    omega
  · rw [if_neg hlate]
    -- The delay is counted in whole periods; what is left of it ends at the next instant.
    have hpos : 0 < t.period := by omega
    have hsub : now - start = (now - t.deadline) + t.period * n := by
      have hcomm : t.period * n = n * t.period := Nat.mul_comm _ _
      omega
    have hdiv : (now - start) / t.period = (now - t.deadline) / t.period + n := by
      rw [hsub, Nat.add_mul_div_left _ _ hpos]
    have hmod := Nat.div_add_mod (now - t.deadline) t.period
    have hlt := Nat.mod_lt (now - t.deadline) hpos
    unfold gridAfter
    rw [hdiv]
    have hmul : ((now - t.deadline) / t.period + n + 1) * t.period
        = t.period * ((now - t.deadline) / t.period) + n * t.period + t.period := by
      rw [Nat.add_mul, Nat.add_mul, Nat.one_mul, Nat.mul_comm t.period]
    omega

/-- The clock shows an instant less than a millisecond late. -/
theorem fireAt_lt (instant : Nat) : fireAt instant < instant + Span.perMilli := by
  unfold fireAt Span.millis Span.perMilli
  have hle := Nat.div_mul_le_self (instant + (1000000 - 1)) 1000000
  show (instant + (1000000 - 1)) / 1000000 * 1000000 < instant + 1000000
  omega

/-- The clock shows a whole number of milliseconds at once. -/
theorem fireAt_of_dvd {instant : Nat} (h : Span.perMilli ∣ instant) : fireAt instant = instant := by
  obtain ⟨ms, rfl⟩ := h
  unfold fireAt
  have hms := Span.millis_ofMillis ms
  rw [Span.ofMillis, Nat.mul_comm] at hms
  rw [hms, Nat.mul_comm]

end Ticker

namespace Timeline

open Ticker (gridAfter)

/-- The rounds of a loop that began at an instant start on the grid of its period, as the clock
shows it, or as soon as the round before them has ended, and never later. -/
structure OnGrid (shown : Nat → Nat) (start period now : Nat) (l : Timeline) : Prop where
  first : ∀ x : Nat, l.starts[0]? = some x → x = shown (start + period)
  next : ∀ k x y : Nat, l.starts[k]? = some x → l.starts[k + 1]? = some y →
    ∃ e, l.ends[k]? = some e ∧ y = max e (shown (gridAfter start period x))
  /-- The first round has not been missed. -/
  soon : l.starts = [] → now ≤ shown (start + period)
  /-- The round behind one that has ended has not been missed. -/
  due : ∀ k x e : Nat, l.starts[k]? = some x → l.ends[k]? = some e → l.starts[k + 1]? = none →
    now ≤ max e (shown (gridAfter start period x))
  lasts : ∀ k x e : Nat, l.starts[k]? = some x → l.ends[k]? = some e → x ≤ e

/-- Whether an instant is in a slot of a grid. -/
def InSlot (start period n x : Nat) : Prop :=
  start + n * period ≤ x ∧ x < start + (n + 1) * period

/-- What the slots of a grid see of the rounds of a loop. -/
structure Slots (start period now : Nat) (l : Timeline) : Prop where
  /-- Rounds never overlap. -/
  apart : ∀ j k e y : Nat, j < k → l.ends[j]? = some e → l.starts[k]? = some y → e ≤ y
  /-- None starts before the first period is over. -/
  after : ∀ x ∈ l.starts, start + period ≤ x
  /-- At most one starts in each slot. -/
  single : ∀ n j k x y : Nat, l.starts[j]? = some x → l.starts[k]? = some y →
    InSlot start period n x → InSlot start period n y → j = k
  /-- A slot in which none starts is covered by one that began before it. -/
  covered : ∀ n, 1 ≤ n → start + (n + 1) * period ≤ now →
    (∀ x ∈ l.starts, ¬ InSlot start period n x) →
    ∃ k x : Nat, l.starts[k]? = some x ∧ x < start + n * period ∧
      ∀ e : Nat, l.ends[k]? = some e → start + (n + 1) * period ≤ e

section

variable {shown : Nat → Nat} {start period now : Nat} {l : Timeline}

theorem le_gridAfter (start period x : Nat) : start + period ≤ gridAfter start period x := by
  unfold gridAfter
  have hmul : 1 * period ≤ ((x - start) / period + 1) * period :=
    Nat.mul_le_mul_right period (Nat.le_add_left 1 _)
  omega

theorem exists_start {k : Nat} {y : Nat} (h : l.starts[k + 1]? = some y) :
    ∃ x, l.starts[k]? = some x := by
  obtain ⟨hlt, -⟩ := List.getElem?_eq_some_iff.1 h
  have hlt' : k < l.starts.length := by omega
  exact ⟨l.starts[k], List.getElem?_eq_getElem hlt'⟩

/-- No round starts before the first period is over. -/
theorem OnGrid.after (h : l.OnGrid shown start period now) (hle : ∀ x, x ≤ shown x) {k x : Nat}
    (hx : l.starts[k]? = some x) : start + period ≤ x := by
  cases k with
  | zero =>
      rw [h.first x hx]
      exact hle _
  | succ k =>
      obtain ⟨z, hz⟩ := exists_start hx
      obtain ⟨e, -, hmax⟩ := h.next k z x hz hx
      have hgrid := le_gridAfter start period z
      have hshown := hle (gridAfter start period z)
      omega

/-- A round starts behind the grid instant that follows the start of any round before it, and behind
the end of that round. -/
theorem OnGrid.later (h : l.OnGrid shown start period now) (hle : ∀ x, x ≤ shown x)
    (hp : 0 < period) {j k x y : Nat} (hjk : j < k) (hx : l.starts[j]? = some x)
    (hy : l.starts[k]? = some y) :
    gridAfter start period x ≤ y ∧ ∃ e, l.ends[j]? = some e ∧ e ≤ y := by
  induction k generalizing y with
  | zero => omega
  | succ k ih =>
      obtain ⟨z, hz⟩ := exists_start hy
      obtain ⟨e, he, hmax⟩ := h.next k z y hz hy
      have hshown := hle (gridAfter start period z)
      by_cases hlast : j = k
      · subst hlast
        have hxz : x = z := Option.some.inj (hx.symm.trans hz)
        subst hxz
        exact ⟨by omega, e, he, by omega⟩
      · obtain ⟨hgrid, e', he', hle'⟩ := ih (by omega) hz
        have hstart : start ≤ z := by
          have hafter := h.after hle hz
          omega
        have hlt := Ticker.lt_gridAfter hp hstart
        exact ⟨by omega, e', he', by omega⟩

theorem OnGrid.single (h : l.OnGrid shown start period now) (hle : ∀ x, x ≤ shown x)
    (hp : 0 < period) {n j k x y : Nat} (hjk : j < k) (hx : l.starts[j]? = some x)
    (hy : l.starts[k]? = some y) (hxn : InSlot start period n x) :
    ¬ InSlot start period n y := by
  intro hyn
  obtain ⟨hgrid, -⟩ := h.later hle hp hjk hx hy
  rw [Ticker.gridAfter_of_slot hxn.1 hxn.2] at hgrid
  have hlt := hyn.2
  omega

/-- Among the rounds that start before an instant there is a last one, if the first does. -/
theorem exists_last {x₀ bound : Nat} (hx₀ : l.starts[0]? = some x₀) (hlt : x₀ < bound) :
    ∃ k x : Nat, l.starts[k]? = some x ∧ x < bound ∧
      ∀ y, l.starts[k + 1]? = some y → bound ≤ y := by
  have hend : ∃ k : Nat, ¬ ∃ x, l.starts[k]? = some x ∧ x < bound := by
    refine ⟨l.starts.length, ?_⟩
    rintro ⟨x, hx, -⟩
    rw [List.getElem?_eq_none (Nat.le_refl _)] at hx
    cases hx
  have hfirst : ¬ ¬ ∃ x, l.starts[0]? = some x ∧ x < bound := fun hnone => hnone ⟨x₀, hx₀, hlt⟩
  obtain ⟨k, hk, hnext⟩ := Nat.exists_not_and_succ_of_not_zero_of_exists hfirst hend
  obtain ⟨x, hx, hxb⟩ := Classical.not_not.1 hk
  refine ⟨k, x, hx, hxb, ?_⟩
  intro y hy
  by_cases hyb : y < bound
  · exact absurd ⟨y, hy, hyb⟩ hnext
  · omega

/-- A slot in which no round starts is covered by the last one that started before it. -/
theorem OnGrid.covered (h : l.OnGrid shown start period now) (hle : ∀ x, x ≤ shown x)
    (hlt : ∀ x, shown x < x + period) (hp : 0 < period) {n : Nat} (hn : 1 ≤ n)
    (hnow : start + (n + 1) * period ≤ now)
    (hnone : ∀ x ∈ l.starts, ¬ InSlot start period n x) :
    ∃ k x : Nat, l.starts[k]? = some x ∧ x < start + n * period ∧
      ∀ e, l.ends[k]? = some e → start + (n + 1) * period ≤ e := by
  have hsucc : (n + 1) * period = n * period + period := by rw [Nat.add_mul, Nat.one_mul]
  have hone : 1 * period ≤ n * period := Nat.mul_le_mul_right period hn
  have hshown := hlt (start + period)
  -- The first round has started, and it has done so before the slot.
  obtain ⟨x₀, hx₀⟩ : ∃ x₀, l.starts[0]? = some x₀ := by
    cases hstarts : l.starts with
    | nil =>
        have hsoon := h.soon hstarts
        omega
    | cons x₀ rest => exact ⟨x₀, rfl⟩
  have hbefore : x₀ < start + n * period := by
    have hfirst := h.first x₀ hx₀
    have hout := hnone x₀ (List.mem_of_getElem? hx₀)
    unfold InSlot at hout
    omega
  obtain ⟨k, x, hx, hxn, hlast⟩ := exists_last hx₀ hbefore
  refine ⟨k, x, hx, hxn, ?_⟩
  intro e he
  have hstart : start ≤ x := by
    have hafter := h.after hle hx
    omega
  have hgrid := Ticker.gridAfter_le hp hstart hxn
  have hgridShown := hlt (gridAfter start period x)
  -- What comes next comes behind the slot, and the grid alone would have it in the slot.
  cases hy : l.starts[k + 1]? with
  | none =>
      have hdue := h.due k x e hx he hy
      omega
  | some y =>
      obtain ⟨e', he', hmax⟩ := h.next k x y hx hy
      have hee : e' = e := Option.some.inj (he'.symm.trans he)
      have hyn := hlast y hy
      have hout := hnone y (List.mem_of_getElem? hy)
      unfold InSlot at hout
      omega

/-- On whole milliseconds the clock shows every instant of the grid itself. -/
theorem OnGrid.exact (h : l.OnGrid Ticker.fireAt start period now)
    (hstart : Span.perMilli ∣ start) (hperiod : Span.perMilli ∣ period) :
    l.OnGrid id start period now := by
  have hshown : Ticker.fireAt (start + period) = start + period :=
    Ticker.fireAt_of_dvd (Nat.dvd_add hstart hperiod)
  have hgrid : ∀ x, Ticker.fireAt (gridAfter start period x) = gridAfter start period x := by
    intro x
    exact Ticker.fireAt_of_dvd (Nat.dvd_add hstart (Nat.dvd_mul_left_of_dvd hperiod _))
  refine ⟨?_, ?_, ?_, ?_, h.lasts⟩
  · intro x hx
    rw [h.first x hx, hshown]
    rfl
  · intro k x y hx hy
    obtain ⟨e, he, hmax⟩ := h.next k x y hx hy
    rw [hgrid] at hmax
    exact ⟨e, he, hmax⟩
  · intro hnone
    have hsoon := h.soon hnone
    rw [hshown] at hsoon
    exact hsoon
  · intro k x e hx he hlast
    have hdue := h.due k x e hx he hlast
    rw [hgrid] at hdue
    exact hdue

/-- Rounds on a grid, seen from its slots. -/
theorem OnGrid.slots (h : l.OnGrid shown start period now) (hle : ∀ x, x ≤ shown x)
    (hlt : ∀ x, shown x < x + period) (hp : 0 < period) : l.Slots start period now where
  apart j k e y hjk he hy := by
    obtain ⟨hk, -⟩ := List.getElem?_eq_some_iff.1 hy
    have hj : j < l.starts.length := by omega
    obtain ⟨-, e', he', hle'⟩ := h.later hle hp hjk (List.getElem?_eq_getElem hj) hy
    have hee : e' = e := Option.some.inj (he'.symm.trans he)
    omega
  after x hmem := by
    obtain ⟨k, hk⟩ := List.mem_iff_getElem?.1 hmem
    exact h.after hle hk
  single n j k x y hx hy hxn hyn := by
    by_cases hjk : j < k
    · exact absurd hyn (h.single hle hp hjk hx hy hxn)
    · by_cases hkj : k < j
      · exact absurd hxn (h.single hle hp hkj hy hx hyn)
      · omega
  covered n hn hnow hnone := h.covered hle hlt hp hn hnow hnone

/-! ## Timelines that grow -/

/-- The instant for which a loop waits behind the rounds that it has started. -/
def deadline (start period : Nat) (l : Timeline) : Nat :=
  match l.starts.getLast? with
  | none => start + period
  | some x => gridAfter start period x

/-- The instant since which a loop has been waiting. -/
def rest (start : Nat) (l : Timeline) : Nat := l.ends.getLast?.getD start

/-- The instant at which the next round of a loop starts. -/
def coming (start period : Nat) (l : Timeline) : Nat :=
  max (l.rest start) (Ticker.fireAt (l.deadline start period))

theorem deadline_on_grid (start period : Nat) (l : Timeline) :
    ∃ n, l.deadline start period = start + (n + 1) * period := by
  unfold deadline
  cases l.starts.getLast? with
  | none =>
      refine ⟨0, ?_⟩
      show start + period = start + (0 + 1) * period
      omega
  | some x => exact ⟨(x - start) / period, rfl⟩

@[simp] theorem deadline_of_start (start period now : Nat) (l : Timeline) :
    deadline start period { l with starts := l.starts ++ [now] } = gridAfter start period now := by
  simp only [deadline, List.getLast?_concat]

@[simp] theorem rest_of_end (start now : Nat) (l : Timeline) :
    rest start { l with ends := l.ends ++ [now] } = now := by
  simp only [rest, List.getLast?_concat, Option.getD_some]

/-- The first round is to start one period behind the start of the loop. -/
theorem coming_of_none (hnone : l.starts = []) (heven : l.starts.length = l.ends.length) :
    l.coming start period = Ticker.fireAt (start + period) := by
  have hlen : l.ends.length = 0 := by
    rw [← heven, hnone]
    rfl
  have hends : l.ends = [] := List.eq_nil_of_length_eq_zero hlen
  have hfire := Ticker.le_fireAt (start + period)
  rw [coming, rest, deadline, hnone, hends]
  show max start (Ticker.fireAt (start + period)) = Ticker.fireAt (start + period)
  omega

/-- Any other round is to start on the grid behind the start of the last one, or at its end. -/
theorem coming_of_last {k x e : Nat} (hlast : l.starts.length = k + 1)
    (heven : l.starts.length = l.ends.length) (hx : l.starts[k]? = some x)
    (he : l.ends[k]? = some e) :
    l.coming start period = max e (Ticker.fireAt (gridAfter start period x)) := by
  have hstart : l.starts.getLast? = some x := by
    rw [List.getLast?_eq_getElem?, hlast]
    exact hx
  have hend : l.ends.getLast? = some e := by
    rw [List.getLast?_eq_getElem?, ← heven, hlast]
    exact he
  rw [coming, rest, deadline, hstart, hend]
  rfl

/-- What the rounds of a loop have been so far. -/
structure Timed (start period now : Nat) (l : Timeline) : Prop where
  first : ∀ x : Nat, l.starts[0]? = some x → x = Ticker.fireAt (start + period)
  next : ∀ k x y : Nat, l.starts[k]? = some x → l.starts[k + 1]? = some y →
    ∃ e, l.ends[k]? = some e ∧ y = max e (Ticker.fireAt (gridAfter start period x))
  lasts : ∀ k x e : Nat, l.starts[k]? = some x → l.ends[k]? = some e → x ≤ e
  past : ∀ x ∈ l.starts, x ≤ now

/-- Time passes. -/
theorem Timed.mono {now' : Nat} (h : l.Timed start period now) (hle : now ≤ now') :
    l.Timed start period now' where
  first := h.first
  next := h.next
  lasts := h.lasts
  past x hx := Nat.le_trans (h.past x hx) hle

theorem getElem?_concat {xs : List Nat} {k x y : Nat} (h : (xs ++ [y])[k]? = some x) :
    xs[k]? = some x ∨ (k = xs.length ∧ x = y) := by
  by_cases hk : k < xs.length
  · rw [List.getElem?_append_left hk] at h
    exact .inl h
  · obtain ⟨hlt, -⟩ := List.getElem?_eq_some_iff.1 h
    rw [List.length_append, List.length_singleton] at hlt
    have hlast : k = xs.length := by omega
    subst hlast
    rw [List.getElem?_concat_length] at h
    exact .inr ⟨rfl, (Option.some.inj h).symm⟩

/-- A round starts when it is to. -/
theorem Timed.starts (h : l.Timed start period now) (heven : l.starts.length = l.ends.length)
    (hnow : now = l.coming start period) :
    Timed start period now { l with starts := l.starts ++ [now] } where
  first x hx := by
    rcases getElem?_concat hx with hx | ⟨hlen, rfl⟩
    · exact h.first x hx
    · have hnone : l.starts = [] := List.eq_nil_of_length_eq_zero hlen.symm
      exact hnow.trans (coming_of_none hnone heven)
  next k x y hx hy := by
    rcases getElem?_concat hy with hy | ⟨hlen, rfl⟩
    · rcases getElem?_concat hx with hx | ⟨hlen, -⟩
      · exact h.next k x y hx hy
      · rw [hlen, List.getElem?_eq_none (Nat.le_succ _)] at hy
        cases hy
    · rcases getElem?_concat hx with hx | ⟨hlen', -⟩
      · -- The round before is the last one so far, and it has ended.
        have hk : k < l.ends.length := by omega
        have he : l.ends[k]? = some l.ends[k] := List.getElem?_eq_getElem hk
        exact ⟨l.ends[k], he, hnow.trans (coming_of_last hlen.symm heven hx he)⟩
      · omega
  lasts k x e hx he := by
    rcases getElem?_concat hx with hx | ⟨hlen, -⟩
    · exact h.lasts k x e hx he
    · have hnone : l.ends[k]? = none := List.getElem?_eq_none (by omega)
      have he' : l.ends[k]? = some e := he
      rw [hnone] at he'
      cases he'
  past x hmem := by
    rcases List.mem_append.1 hmem with hmem | hmem
    · exact h.past x hmem
    · exact Nat.le_of_eq (List.mem_singleton.1 hmem)

/-- A round ends. -/
theorem Timed.ends (h : l.Timed start period now) :
    Timed start period now { l with ends := l.ends ++ [now] } where
  first := h.first
  next k x y hx hy := by
    obtain ⟨e, he, hmax⟩ := h.next k x y hx hy
    have hk : k < l.ends.length := (List.getElem?_eq_some_iff.1 he).1
    exact ⟨e, (List.getElem?_append_left hk).trans he, hmax⟩
  lasts k x e hx he := by
    rcases getElem?_concat he with he | ⟨-, rfl⟩
    · exact h.lasts k x e hx he
    · exact h.past x (List.mem_of_getElem? hx)
  past := h.past

/-- If no round is missed, the rounds of a loop keep to the grid. -/
theorem Timed.on_grid (h : l.Timed start period now)
    (hearly : l.starts.length = l.ends.length + 1 ∨
      (l.starts.length = l.ends.length ∧ now ≤ l.coming start period)) :
    l.OnGrid Ticker.fireAt start period now := by
  refine ⟨h.first, h.next, ?_, ?_, h.lasts⟩
  · intro hnone
    rcases hearly with hodd | ⟨heven, hnow⟩
    · rw [hnone] at hodd
      cases hodd
    · rw [coming_of_none hnone heven] at hnow
      exact hnow
  · intro k x e hx he hlast
    have hk : k < l.ends.length := (List.getElem?_eq_some_iff.1 he).1
    have hlen : l.starts.length ≤ k + 1 := List.getElem?_eq_none_iff.1 hlast
    rcases hearly with hodd | ⟨heven, hnow⟩
    · omega
    · have hk' : l.starts.length = k + 1 := by omega
      rw [coming_of_last hk' heven hx he] at hnow
      exact hnow

end

end Timeline

end HomeEnergy
