import HomeEnergy.Proofs.Routine.Rely

/-!
# Which steps a routine takes

What a routine may be trusted with often follows from the kinds of its steps alone: whether it has
to do with tasks, with the lock, or has to wait. `Routine.Uses` says that a routine takes steps of
certain kinds only, whatever it looks at.

## Main results

* `Routine.uses_bind`, `Routine.uses_within` — routines in sequence, and on a part.
* `Routine.taskless_iff_uses` — routines that have nothing to do with tasks.
-/

namespace HomeEnergy

/-- The kinds of steps. -/
inductive RoutineStep where
  | act
  | clock
  | sleep
  | acquire
  | release
  | launch
  | cancel
  | join
deriving DecidableEq, Repr

namespace RoutineStep

/-- Steps that have nothing to do with tasks. -/
def Taskless : RoutineStep → Prop
  | launch | cancel | join => False
  | _ => True

/-- Steps at which nobody has to wait and that let nobody else go on. -/
def Waitless : RoutineStep → Prop
  | sleep | acquire | release | join => False
  | _ => True

/-- Steps that have nothing to do with the lock or with tasks. -/
def Direct : RoutineStep → Prop
  | act | clock | sleep => True
  | _ => False

end RoutineStep

namespace Routine

variable {σ τ α β : Type} {kinds : RoutineStep → Prop}

/-- A routine takes steps of some kinds only. -/
def Uses (kinds : RoutineStep → Prop) : Routine σ α → Prop
  | done _ => True
  | act _ next => kinds .act ∧ ∀ s, (next s).Uses kinds
  | clock next => kinds .clock ∧ ∀ t, (next t).Uses kinds
  | sleep _ next => kinds .sleep ∧ next.Uses kinds
  | acquire next => kinds .acquire ∧ next.Uses kinds
  | release next => kinds .release ∧ next.Uses kinds
  | launch _ next => kinds .launch ∧ next.Uses kinds
  | cancel _ next => kinds .cancel ∧ next.Uses kinds
  | join _ next => kinds .join ∧ next.Uses kinds

theorem uses_bind {p : Routine σ α} {f : α → Routine σ β} (hp : p.Uses kinds)
    (hf : ∀ a, (f a).Uses kinds) : (p.bind f).Uses kinds := by
  induction p with
  | done a => exact hf a
  | act change next ih => exact ⟨hp.1, fun s => ih s (hp.2 s)⟩
  | clock next ih => exact ⟨hp.1, fun t => ih t (hp.2 t)⟩
  | sleep _ _ ih => exact ⟨hp.1, ih hp.2⟩
  | acquire _ ih => exact ⟨hp.1, ih hp.2⟩
  | release _ ih => exact ⟨hp.1, ih hp.2⟩
  | launch _ _ ih => exact ⟨hp.1, ih hp.2⟩
  | cancel _ _ ih => exact ⟨hp.1, ih hp.2⟩
  | join _ _ ih => exact ⟨hp.1, ih hp.2⟩

theorem uses_do {p : Routine σ α} {f : α → Routine σ β} (hp : p.Uses kinds)
    (hf : ∀ a, (f a).Uses kinds) : (p >>= f).Uses kinds := uses_bind hp hf

theorem uses_pure (a : α) : (pure a : Routine σ α).Uses kinds := trivial

theorem uses_change (hact : kinds .act) (f : σ → σ) : (change f).Uses kinds :=
  ⟨hact, fun _ => trivial⟩

theorem uses_look (hact : kinds .act) : (look : Routine σ σ).Uses kinds := ⟨hact, fun _ => trivial⟩

theorem uses_within {part : Part σ τ} {p : Routine τ α} (hp : p.Uses kinds) :
    (p.within part).Uses kinds := by
  induction p with
  | done a => exact trivial
  | act change next ih => exact ⟨hp.1, fun s => ih _ (hp.2 _)⟩
  | clock next ih => exact ⟨hp.1, fun t => ih t (hp.2 t)⟩
  | sleep _ _ ih => exact ⟨hp.1, ih hp.2⟩
  | acquire _ ih => exact ⟨hp.1, ih hp.2⟩
  | release _ ih => exact ⟨hp.1, ih hp.2⟩
  | launch _ _ ih => exact ⟨hp.1, ih hp.2⟩
  | cancel _ _ ih => exact ⟨hp.1, ih hp.2⟩
  | join _ _ ih => exact ⟨hp.1, ih hp.2⟩

theorem taskless_iff_uses {p : Routine σ α} : p.Taskless ↔ p.Uses RoutineStep.Taskless := by
  induction p with
  | done a => exact Iff.rfl
  | act change next ih => exact (forall_congr' ih).trans (and_iff_right trivial).symm
  | clock next ih => exact (forall_congr' ih).trans (and_iff_right trivial).symm
  | sleep _ _ ih => exact ih.trans (and_iff_right trivial).symm
  | acquire _ ih => exact ih.trans (and_iff_right trivial).symm
  | release _ ih => exact ih.trans (and_iff_right trivial).symm
  | launch _ _ _ => exact (iff_of_false id fun h => h.1)
  | cancel _ _ _ => exact (iff_of_false id fun h => h.1)
  | join _ _ _ => exact (iff_of_false id fun h => h.1)

theorem taskless_bind {p : Routine σ α} {f : α → Routine σ β} (hp : p.Taskless)
    (hf : ∀ a, (f a).Taskless) : (p.bind f).Taskless :=
  taskless_iff_uses.2 (uses_bind (taskless_iff_uses.1 hp) fun a => taskless_iff_uses.1 (hf a))

theorem taskless_within {part : Part σ τ} {p : Routine τ α} (hp : p.Taskless) :
    (p.within part).Taskless :=
  taskless_iff_uses.2 (uses_within (taskless_iff_uses.1 hp))

end Routine

end HomeEnergy
