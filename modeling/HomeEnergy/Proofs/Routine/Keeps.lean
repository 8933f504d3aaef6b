import HomeEnergy.Proofs.Routine.Crowd

/-!
# What all changes of a routine have in common

`Routine.Keeps R` says of a routine that, whatever it has looked at, each of its changes takes a
state `s` to a state `t` with `R s t`. It says nothing about results. What keeps away from a part of
a state in each of its changes keeps away from it altogether, also amid others.

## Main results

* `Routine.keeps_bind`, `Routine.keeps_within` — routines in sequence, and on a part.
* `Routine.keeps_alone` — the course of such a routine that nothing interferes with.
-/

namespace HomeEnergy.Routine

variable {σ τ α β : Type}

/-- Each change of a routine is of one kind. -/
def Keeps (R : σ → σ → Prop) : Routine σ α → Prop
  | done _ => True
  | act change next => ∀ s, R s (change s) ∧ (next s).Keeps R
  | clock next => ∀ t, (next t).Keeps R
  | sleep _ next => next.Keeps R
  | acquire next => next.Keeps R
  | release next => next.Keeps R
  | launch _ next => next.Keeps R
  | cancel _ next => next.Keeps R
  | join _ next => next.Keeps R

variable {R : σ → σ → Prop}

theorem keeps_bind {p : Routine σ α} {f : α → Routine σ β} (hp : p.Keeps R)
    (hf : ∀ a, (f a).Keeps R) : (p.bind f).Keeps R := by
  induction p with
  | done a => exact hf a
  | act change next ih => exact fun s => ⟨(hp s).1, ih s (hp s).2⟩
  | clock next ih => exact fun t => ih t (hp t)
  | sleep _ _ ih => exact ih hp
  | acquire _ ih => exact ih hp
  | release _ ih => exact ih hp
  | launch _ _ ih => exact ih hp
  | cancel _ _ ih => exact ih hp
  | join _ _ ih => exact ih hp

theorem keeps_do {p : Routine σ α} {f : α → Routine σ β} (hp : p.Keeps R)
    (hf : ∀ a, (f a).Keeps R) : (p >>= f).Keeps R := keeps_bind hp hf

theorem keeps_pure (a : α) : (pure a : Routine σ α).Keeps R := trivial

theorem keeps_look (hrefl : ∀ s, R s s) : (look : Routine σ σ).Keeps R :=
  fun s => ⟨hrefl s, trivial⟩

theorem keeps_change {f : σ → σ} (h : ∀ s, R s (f s)) : (change f).Keeps R :=
  fun s => ⟨h s, trivial⟩

/-- A routine on a part does what may be done to that part. -/
theorem keeps_within {part : Part σ τ} (h : ∀ f s, R s (part.modify f s)) (p : Routine τ α) :
    (p.within part).Keeps R := by
  induction p with
  | done a => exact trivial
  | act change next ih => exact fun s => ⟨h change s, ih (part.get s)⟩
  | clock next ih => exact fun t => ih t
  | sleep _ _ ih => exact ih
  | acquire _ ih => exact ih
  | release _ ih => exact ih
  | launch _ _ ih => exact ih
  | cancel _ _ ih => exact ih
  | join _ _ ih => exact ih

/-- If such changes add up, all that a routine does by itself is one of them. -/
theorem keeps_alone (hr : Interference R) {p : Routine σ α} (hp : p.Keeps R) (t : Nat) (s : σ) :
    R s (p.alone t s).2.2 := by
  induction p generalizing t s with
  | done _ => exact hr.refl s
  | act change next ih => exact hr.trans (hp s).1 (ih s (hp s).2 t (change s))
  | clock next ih => exact ih t (hp t) t s
  | sleep d _ ih => exact ih hp (t + d.nanos) s
  | acquire _ ih => exact ih hp t s
  | release _ ih => exact ih hp t s
  | launch _ _ ih => exact ih hp t s
  | cancel _ _ ih => exact ih hp t s
  | join _ _ ih => exact ih hp t s

end HomeEnergy.Routine
