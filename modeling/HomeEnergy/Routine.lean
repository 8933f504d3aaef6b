import HomeEnergy.Span

/-!
# Routines

A routine works on a shared state. Each of its steps takes effect at once and as a whole; between
two steps it may have to wait, for time to pass, for the lock, or for a task to end. A routine is
the tree of all its courses, so that what it does can be followed step by step under any schedule.

## Main results

* `Routine.bind_pure`, `Routine.bind_assoc` — routines in sequence.
* `Routine.alone` — the course of a routine that nothing interferes with.
-/

namespace HomeEnergy

/-- A routine on a shared state that ends with a result. Tasks are known by number. -/
inductive Routine (σ α : Type) where
  /-- The end. -/
  | done (result : α)
  /-- Change the state at once, and go on with the state as it was before. -/
  | act (change : σ → σ) (next : σ → Routine σ α)
  /-- Look at the clock, which shows nanoseconds. -/
  | clock (next : Nat → Routine σ α)
  /-- Let time pass. -/
  | sleep (d : Span) (next : Routine σ α)
  /-- Wait for the lock and take it. -/
  | acquire (next : Routine σ α)
  /-- Give the lock back. -/
  | release (next : Routine σ α)
  /-- Let a task begin. -/
  | launch (task : Nat) (next : Routine σ α)
  /-- Ask a task to stop. -/
  | cancel (task : Nat) (next : Routine σ α)
  /-- Wait for a task to end. -/
  | join (task : Nat) (next : Routine σ α)

namespace Routine

variable {σ τ α β γ : Type}

/-- One routine after the other. -/
def bind : Routine σ α → (α → Routine σ β) → Routine σ β
  | done a, f => f a
  | act change next, f => act change fun s => (next s).bind f
  | clock next, f => clock fun t => (next t).bind f
  | sleep d next, f => sleep d (next.bind f)
  | acquire next, f => acquire (next.bind f)
  | release next, f => release (next.bind f)
  | launch task next, f => launch task (next.bind f)
  | cancel task next, f => cancel task (next.bind f)
  | join task next, f => join task (next.bind f)

instance : Monad (Routine σ) where
  pure := done
  bind := bind

@[simp] theorem bind_pure (p : Routine σ α) : p.bind done = p := by
  induction p with
  | done a => rfl
  | act change next ih => simp only [bind]; exact congrArg _ (funext ih)
  | clock next ih => simp only [bind]; exact congrArg _ (funext ih)
  | _ => simp_all [bind]

theorem bind_assoc (p : Routine σ α) (f : α → Routine σ β) (g : β → Routine σ γ) :
    (p.bind f).bind g = p.bind fun a => (f a).bind g := by
  induction p with
  | done a => rfl
  | act change next ih => simp only [bind]; exact congrArg _ (funext ih)
  | clock next ih => simp only [bind]; exact congrArg _ (funext ih)
  | _ => simp_all [bind]

/-! ## Steps -/

/-- Look at the state. -/
def look : Routine σ σ := act id done

/-- Change the state. -/
def change (f : σ → σ) : Routine σ Unit := act f fun _ => done ()

/-- Change the state and tell something of how it was. -/
def changeTelling (f : σ → σ) (tell : σ → α) : Routine σ α := act f fun s => done (tell s)

/-- The time. -/
def now : Routine σ Nat := clock done

/-- Let time pass. -/
def pause (d : Span) : Routine σ Unit := sleep d (done ())

/-- Run a routine with the lock held. -/
def locked (p : Routine σ α) : Routine σ α :=
  acquire (p.bind fun a => release (done a))

/-! ## Parts of a state -/

/-- A part of a state that can be looked at and changed by itself. -/
structure Part (σ τ : Type) where
  get : σ → τ
  set : τ → σ → σ

/-- Change a part. -/
def Part.modify (part : Part σ τ) (f : τ → τ) (s : σ) : σ := part.set (f (part.get s)) s

/-- A part of a part. -/
def Part.inner {ρ : Type} (outer : Part σ τ) (part : Part τ ρ) : Part σ ρ where
  get := part.get ∘ outer.get
  set r := outer.modify (part.set r)

/-- A routine on a part, as a routine on the whole. -/
def within (part : Part σ τ) : Routine τ α → Routine σ α
  | done a => done a
  | act change next => act (part.modify change) fun s => (next (part.get s)).within part
  | clock next => clock fun t => (next t).within part
  | sleep d next => sleep d (next.within part)
  | acquire next => acquire (next.within part)
  | release next => release (next.within part)
  | launch task next => launch task (next.within part)
  | cancel task next => cancel task (next.within part)
  | join task next => join task (next.within part)

/-! ## Undisturbed courses -/

/-- The course of a routine that nothing interferes with, from a time and a state: the result, the
time and the state at its end. The lock is free for it, and tasks are not looked at. -/
def alone : Routine σ α → Nat → σ → α × Nat × σ
  | done a, t, s => (a, t, s)
  | act change next, t, s => (next s).alone t (change s)
  | clock next, t, s => (next t).alone t s
  | sleep d next, t, s => next.alone (t + d.nanos) s
  | acquire next, t, s => next.alone t s
  | release next, t, s => next.alone t s
  | launch _ next, t, s => next.alone t s
  | cancel _ next, t, s => next.alone t s
  | join _ next, t, s => next.alone t s

end Routine

end HomeEnergy
