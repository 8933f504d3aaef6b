import HomeEnergy.Module.Poller
import HomeEnergy.Proofs.Routine.Rounds

/-!
# Runs of cycles

A poller is asked for one cycle after the other, or its task goes through them on the ticks of its
ticker. Either way what happens is a row of cycles with others acting in between, and no outcome of
a cycle keeps the next one from coming.

## Main results

* `Poller.Cycles` — a run of successive cycles, with their results.
* `Poller.cycles_of_course` — the rounds of a poller's task are such a run.
-/

namespace HomeEnergy

variable {σ ρ α : Type}

namespace Poller

/-- A run of successive cycles, amid others: their results, in order, and the state after them. -/
inductive Cycles (p : Poller σ ρ) (others : σ → σ → Prop) (s : σ) :
    List (Outcome Unit) → σ → Prop where
  | none {s' : σ} (amid : others s s') : Cycles p others s [] s'
  | one {s' s'' : σ} {rs : List (Outcome Unit)} {r : Outcome Unit}
      (before : Cycles p others s rs s') (cycle : p.cycle.EndsAmid others s' r s'') :
      Cycles p others s (rs ++ [r]) s''

variable {p : Poller σ ρ} {others : σ → σ → Prop} {s s' : σ}

/-- A round is a cycle whose result nobody looks at. -/
theorem cycle_of_round (ho : Routine.Interference others) {u : Unit}
    (h : p.body.round.EndsAmid others s u s') : ∃ r, p.cycle.EndsAmid others s r s' := by
  obtain ⟨r, t, hcycle, -, hafter⟩ := (Routine.endsAmid_do ho).1 h
  exact ⟨r, hcycle.after ho hafter⟩

/-- Rounds are cycles. -/
theorem cycles_of_rounds (ho : Routine.Interference others) {n : Nat}
    (h : Schedule.Rounds p.body.round others s n s') :
    ∃ rs, rs.length = n ∧ p.Cycles others s rs s' := by
  induction h with
  | none amid => exact ⟨[], rfl, .none amid⟩
  | one _ hround ih =>
      obtain ⟨rs, hcount, hrun⟩ := ih
      obtain ⟨r, hcycle⟩ := cycle_of_round ho hround
      refine ⟨rs ++ [r], ?_, .one hrun hcycle⟩
      rw [List.length_append, hcount]
      rfl

/-- The rounds of a poller's task are a run of cycles, amid all that others do. -/
theorem cycles_of_course (ho : Routine.Interference others) {i : Nat} {a a' : Schedule σ α}
    {l : Timeline} {t₀ : Task σ} (h : Schedule.Course i others a l a')
    (ht₀ : a.tasks[i]? = some t₀) (hbegin : t₀.progress = .beginning) (hbody : t₀.body = p.body) :
    ∃ t rs s, a'.tasks[i]? = some t ∧ rs.length = l.ends.length ∧
      p.Cycles others a.state rs s ∧ Schedule.Stage p.body.round others s a'.state t := by
  have hpace : t₀.body.pace = .ticking p.interval := by
    rw [hbody]
    rfl
  obtain ⟨t, s, ht, hrun, hstage⟩ := Schedule.rounds_of_course ho h ht₀ hbegin hpace
  rw [hbody] at hrun hstage
  obtain ⟨rs, hcount, hcycles⟩ := cycles_of_rounds ho hrun
  exact ⟨t, rs, s, ht, hcount, hcycles, hstage⟩

end Poller

end HomeEnergy
