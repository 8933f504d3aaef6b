import HomeEnergy.Proofs.Routine.Keeps
import HomeEnergy.Proofs.Routine.Uses

/-!
# Laws for routines

Much of what is known of a routine is put together as the routine is: it is known of routines in
sequence once it is known of each of them, and looking, asking for the time and pausing are no
matter. Connections, devices and modules are gone through once, for any such law (`Routine.Law`).
What is done under the lock may be held to another law than what is done around it (`Law.Locks`).

## Main results

* `Law.keeps` — the law that each change is of one kind.
* `Law.direct` — the law that the lock and the tasks are left alone.
-/

namespace HomeEnergy.Routine

variable {σ α β : Type}

/-- A law that routines in sequence obey if each of them does, and that has nothing against looking,
asking for the time, and pausing. -/
structure Law (σ : Type) where
  /-- Whether a routine obeys the law. -/
  holds : ∀ {α : Type}, Routine σ α → Prop
  done : ∀ {α : Type} (a : α), holds (.done a)
  bind : ∀ {α β : Type} {p : Routine σ α} {f : α → Routine σ β},
    holds p → (∀ a, holds (f a)) → holds (p.bind f)
  look : holds .look
  now : holds .now
  pause : ∀ d, holds (.pause d)

/-- A routine that leaves the lock and the tasks alone. -/
abbrev Direct (p : Routine σ α) : Prop := p.Uses RoutineStep.Direct

namespace Law

theorem value (r : Law σ) (a : α) : r.holds (Pure.pure a) := r.done a

theorem seq (r : Law σ) {p : Routine σ α} {f : α → Routine σ β} (hp : r.holds p)
    (hf : ∀ a, r.holds (f a)) : r.holds (p >>= f) := r.bind hp hf

/-- What obeys one law obeys another one if it is done under the lock. -/
def Locks (inner outer : Law σ) : Prop :=
  ∀ (α : Type) (p : Routine σ α), inner.holds p → outer.holds p.locked

/-- Each change is of one kind. -/
def keeps {R : σ → σ → Prop} (hrefl : ∀ s, R s s) : Law σ where
  holds p := p.Keeps R
  done _ := trivial
  bind := keeps_bind
  look := keeps_look hrefl
  now _ := trivial
  pause _ := trivial

theorem locks_keeps {R : σ → σ → Prop} (hrefl : ∀ s, R s s) : (keeps hrefl).Locks (keeps hrefl) :=
  fun _ _ hp => keeps_bind hp fun _ => trivial

/-- The lock and the tasks are left alone. -/
def direct : Law σ where
  holds p := p.Direct
  done _ := trivial
  bind := uses_bind
  look := uses_look trivial
  now := ⟨trivial, fun _ => trivial⟩
  pause _ := ⟨trivial, trivial⟩

theorem direct_change (f : σ → σ) : direct.holds (change f) := uses_change trivial f

end Law

end HomeEnergy.Routine
