import HomeEnergy.Proofs.Routine.Amid

/-!
# How routines end

A routine that nothing interferes with ends, but when it ends and what the clock shows on the way
depends on the timers. `Routine.Ends` leaves both open: it relates the state in which a routine
begins to every result and every state with which it may end, whatever the clock shows. What holds
of all ends holds of the undisturbed course `Routine.alone`, and of each course that a schedule
gives.

## Main results

* `Routine.endsAmid_eq` — these are the ends amid others who do nothing.
* `Routine.ends_bind` — the ends of two routines in sequence.
* `Routine.ends_within` — a routine on a part leaves the rest of the state alone.
* `Routine.ends_alone` — the undisturbed course is an end, so there always is one.
-/

namespace HomeEnergy

namespace Routine

variable {σ τ α β : Type}

/-- A routine that begins in a state may end with a result in another state. -/
def Ends : Routine σ α → σ → α → σ → Prop
  | done a, s, b, s' => a = b ∧ s = s'
  | act change next, s, b, s' => (next s).Ends (change s) b s'
  | clock next, s, b, s' => ∃ t, (next t).Ends s b s'
  | sleep _ next, s, b, s' => next.Ends s b s'
  | acquire next, s, b, s' => next.Ends s b s'
  | release next, s, b, s' => next.Ends s b s'
  | launch _ next, s, b, s' => next.Ends s b s'
  | cancel _ next, s, b, s' => next.Ends s b s'
  | join _ next, s, b, s' => next.Ends s b s'

theorem interference_eq : Interference (Eq : σ → σ → Prop) where
  refl := Eq.refl
  trans := Eq.trans

/-- Nothing interferes with a routine if others leave every state as it is. -/
theorem endsAmid_eq {p : Routine σ α} {s s' : σ} {a : α} :
    p.EndsAmid Eq s a s' ↔ p.Ends s a s' := by
  induction p generalizing s with
  | done b => exact Iff.rfl
  | act change next ih =>
      constructor
      · rintro ⟨t, rfl, h⟩
        exact (ih s).1 h
      · intro h
        exact ⟨s, rfl, (ih s).2 h⟩
  | clock next ih =>
      constructor
      · rintro ⟨t, h⟩
        exact ⟨t, (ih t).1 h⟩
      · rintro ⟨t, h⟩
        exact ⟨t, (ih t).2 h⟩
  | sleep _ _ ih => exact ih
  | acquire _ ih => exact ih
  | release _ ih => exact ih
  | launch _ _ ih => exact ih
  | cancel _ _ ih => exact ih
  | join _ _ ih => exact ih

/-- The state between two routines in sequence is the end of the first. -/
theorem ends_bind {p : Routine σ α} {f : α → Routine σ β} {s s'' : σ} {b : β} :
    (p.bind f).Ends s b s'' ↔ ∃ a s', p.Ends s a s' ∧ (f a).Ends s' b s'' := by
  rw [← endsAmid_eq, endsAmid_bind interference_eq]
  simp only [endsAmid_eq]

theorem ends_do {p : Routine σ α} {f : α → Routine σ β} {s s'' : σ} {b : β} :
    (p >>= f).Ends s b s'' ↔ ∃ a s', p.Ends s a s' ∧ (f a).Ends s' b s'' :=
  ends_bind

/-- The lock makes no difference to a routine that nothing interferes with. -/
theorem ends_locked {p : Routine σ α} {s s' : σ} {a : α} :
    p.locked.Ends s a s' ↔ p.Ends s a s' := by
  constructor
  · intro h
    obtain ⟨b, t, hp, rfl, rfl⟩ := ends_bind.1 h
    exact hp
  · intro h
    exact ends_bind.2 ⟨a, s', h, rfl, rfl⟩

/-! ## Single steps -/

theorem ends_change {f : σ → σ} {s s' : σ} {u : Unit} :
    (change f).Ends s u s' ↔ f s = s' :=
  ⟨fun h => h.2, fun h => ⟨rfl, h⟩⟩

theorem ends_changeTelling {f : σ → σ} {tell : σ → α} {s s' : σ} {a : α} :
    (changeTelling f tell).Ends s a s' ↔ tell s = a ∧ f s = s' := Iff.rfl

theorem ends_pause {d : Span} {s s' : σ} {u : Unit} :
    (pause d : Routine σ Unit).Ends s u s' ↔ s = s' :=
  ⟨fun h => h.2, fun h => ⟨rfl, h⟩⟩

/-! ## Parts -/

/-- A part is what it looks like: what is written is read back, and writing touches nothing else. -/
structure Part.Lawful (part : Part σ τ) : Prop where
  get_set : ∀ x s, part.get (part.set x s) = x
  set_get : ∀ s, part.set (part.get s) s = s
  set_set : ∀ x y s, part.set x (part.set y s) = part.set x s

theorem ends_within {part : Part σ τ} (hp : part.Lawful) {p : Routine τ α} {s s' : σ} {a : α} :
    (p.within part).Ends s a s' ↔ ∃ x, p.Ends (part.get s) a x ∧ s' = part.set x s := by
  induction p generalizing s with
  | done b =>
      constructor
      · rintro ⟨rfl, rfl⟩
        exact ⟨part.get s, ⟨rfl, rfl⟩, (hp.set_get s).symm⟩
      · rintro ⟨x, ⟨rfl, rfl⟩, rfl⟩
        exact ⟨rfl, (hp.set_get s).symm⟩
  | act change next ih =>
      have hget : part.get (part.modify change s) = change (part.get s) := hp.get_set _ _
      have hset : ∀ x, part.set x (part.modify change s) = part.set x s := by
        intro x
        exact hp.set_set _ _ _
      have hstep := ih (part.get s) (s := part.modify change s)
      simp only [hget, hset] at hstep
      exact hstep
  | clock next ih =>
      constructor
      · rintro ⟨t, ht⟩
        obtain ⟨x, hx, rfl⟩ := (ih t).1 ht
        exact ⟨x, ⟨t, hx⟩, rfl⟩
      · rintro ⟨x, ⟨t, hx⟩, rfl⟩
        exact ⟨t, (ih t).2 ⟨x, hx, rfl⟩⟩
  | sleep _ _ ih => exact ih
  | acquire _ ih => exact ih
  | release _ ih => exact ih
  | launch _ _ ih => exact ih
  | cancel _ _ ih => exact ih
  | join _ _ ih => exact ih

/-! ## Undisturbed courses -/

theorem ends_alone (p : Routine σ α) (t : Nat) (s : σ) :
    p.Ends s (p.alone t s).1 (p.alone t s).2.2 :=
  endsAmid_eq.1 (endsAmid_alone interference_eq p t s)

/-- A routine always ends. -/
theorem exists_ends (p : Routine σ α) (s : σ) : ∃ a s', p.Ends s a s' :=
  ⟨_, _, ends_alone p 0 s⟩

/-- A routine with one possible end has that end. -/
theorem ends_iff_of_forall {p : Routine σ α} {s t : σ} {b : α}
    (h : ∀ a s', p.Ends s a s' → a = b ∧ s' = t) (a : α) (s' : σ) :
    p.Ends s a s' ↔ a = b ∧ s' = t := by
  refine ⟨h a s', ?_⟩
  rintro ⟨rfl, rfl⟩
  obtain ⟨a', s'', hends⟩ := p.exists_ends s
  obtain ⟨rfl, rfl⟩ := h a' s'' hends
  exact hends

end Routine

end HomeEnergy
