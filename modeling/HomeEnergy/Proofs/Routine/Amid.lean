import HomeEnergy.Routine

/-!
# How routines end amid others

Between two steps of a routine others may change the state. `Routine.EndsAmid others` relates the
state in which a routine begins to every result and every state with which it may end, if between
any two of its steps the state may change from `s` to `t` whenever `others s t`. What holds of all
these ends holds under every schedule in which the other routines change the state in no other way.

## Main results

* `Routine.endsAmid_bind` — the ends of two routines in sequence.
* `Routine.amid_of_endsAmid_within` — a routine on a part changes nothing but that part.
* `Routine.endsAmid_alone` — the undisturbed course is one of the ends.
-/

namespace HomeEnergy

namespace Routine

variable {σ τ α β : Type}

/-- A routine that begins in a state may end with a result in another state, if others change the
state between its steps. -/
def EndsAmid (others : σ → σ → Prop) : Routine σ α → σ → α → σ → Prop
  | done a, s, b, s' => a = b ∧ others s s'
  | act change next, s, b, s' => ∃ t, others s t ∧ (next t).EndsAmid others (change t) b s'
  | clock next, s, b, s' => ∃ t, (next t).EndsAmid others s b s'
  | sleep _ next, s, b, s' => next.EndsAmid others s b s'
  | acquire next, s, b, s' => next.EndsAmid others s b s'
  | release next, s, b, s' => next.EndsAmid others s b s'
  | launch _ next, s, b, s' => next.EndsAmid others s b s'
  | cancel _ next, s, b, s' => next.EndsAmid others s b s'
  | join _ next, s, b, s' => next.EndsAmid others s b s'

/-- What others do to a state: nothing, or one thing after the other. -/
structure Interference (others : σ → σ → Prop) : Prop where
  refl : ∀ s, others s s
  trans : ∀ {s t u}, others s t → others t u → others s u

variable {others : σ → σ → Prop}

/-- Others may act before a routine begins. -/
theorem EndsAmid.before (ho : Interference others) {p : Routine σ α} {s t s' : σ} {b : α}
    (h : others s t) (hp : p.EndsAmid others t b s') : p.EndsAmid others s b s' := by
  induction p generalizing s t with
  | done a => exact ⟨hp.1, ho.trans h hp.2⟩
  | act change next _ =>
      obtain ⟨u, hu, hnext⟩ := hp
      exact ⟨u, ho.trans h hu, hnext⟩
  | clock next ih =>
      obtain ⟨x, hnext⟩ := hp
      exact ⟨x, ih x h hnext⟩
  | sleep _ _ ih => exact ih h hp
  | acquire _ ih => exact ih h hp
  | release _ ih => exact ih h hp
  | launch _ _ ih => exact ih h hp
  | cancel _ _ ih => exact ih h hp
  | join _ _ ih => exact ih h hp

/-- Others may act after a routine has ended. -/
theorem EndsAmid.after (ho : Interference others) {p : Routine σ α} {s s' t : σ} {b : α}
    (hp : p.EndsAmid others s b s') (h : others s' t) : p.EndsAmid others s b t := by
  induction p generalizing s with
  | done a => exact ⟨hp.1, ho.trans hp.2 h⟩
  | act change next ih =>
      obtain ⟨u, hu, hnext⟩ := hp
      exact ⟨u, hu, ih u hnext⟩
  | clock next ih =>
      obtain ⟨x, hnext⟩ := hp
      exact ⟨x, ih x hnext⟩
  | sleep _ _ ih => exact ih hp
  | acquire _ ih => exact ih hp
  | release _ ih => exact ih hp
  | launch _ _ ih => exact ih hp
  | cancel _ _ ih => exact ih hp
  | join _ _ ih => exact ih hp

/-- Others who may do less disturb less. -/
theorem EndsAmid.imp {more : σ → σ → Prop} (h : ∀ s t, others s t → more s t) {p : Routine σ α}
    {s s' : σ} {b : α} (hp : p.EndsAmid others s b s') : p.EndsAmid more s b s' := by
  induction p generalizing s with
  | done a => exact ⟨hp.1, h _ _ hp.2⟩
  | act change next ih =>
      obtain ⟨t, ht, hnext⟩ := hp
      exact ⟨t, h _ _ ht, ih t hnext⟩
  | clock next ih =>
      obtain ⟨x, hnext⟩ := hp
      exact ⟨x, ih x hnext⟩
  | sleep _ _ ih => exact ih hp
  | acquire _ ih => exact ih hp
  | release _ ih => exact ih hp
  | launch _ _ ih => exact ih hp
  | cancel _ _ ih => exact ih hp
  | join _ _ ih => exact ih hp

/-- The state between two routines in sequence is an end of the first. -/
theorem endsAmid_bind (ho : Interference others) {p : Routine σ α} {f : α → Routine σ β}
    {s s'' : σ} {b : β} :
    (p.bind f).EndsAmid others s b s'' ↔
      ∃ a s', p.EndsAmid others s a s' ∧ (f a).EndsAmid others s' b s'' := by
  induction p generalizing s with
  | done a =>
      constructor
      · intro h
        exact ⟨a, s, ⟨rfl, ho.refl s⟩, h⟩
      · rintro ⟨a', s', ⟨rfl, hs⟩, h⟩
        exact h.before ho hs
  | act change next ih =>
      constructor
      · rintro ⟨t, ht, h⟩
        obtain ⟨a, s', hp, hf⟩ := (ih t).1 h
        exact ⟨a, s', ⟨t, ht, hp⟩, hf⟩
      · rintro ⟨a, s', ⟨t, ht, hp⟩, hf⟩
        exact ⟨t, ht, (ih t).2 ⟨a, s', hp, hf⟩⟩
  | clock next ih =>
      constructor
      · rintro ⟨t, ht⟩
        obtain ⟨a, s', hp, hf⟩ := (ih t).1 ht
        exact ⟨a, s', ⟨t, hp⟩, hf⟩
      · rintro ⟨a, s', ⟨t, hp⟩, hf⟩
        exact ⟨t, (ih t).2 ⟨a, s', hp, hf⟩⟩
  | sleep _ _ ih => exact ih
  | acquire _ ih => exact ih
  | release _ ih => exact ih
  | launch _ _ ih => exact ih
  | cancel _ _ ih => exact ih
  | join _ _ ih => exact ih

theorem endsAmid_do (ho : Interference others) {p : Routine σ α} {f : α → Routine σ β}
    {s s'' : σ} {b : β} :
    (p >>= f).EndsAmid others s b s'' ↔
      ∃ a s', p.EndsAmid others s a s' ∧ (f a).EndsAmid others s' b s'' :=
  endsAmid_bind ho

/-- A change happens at one instant; others may act before it and after it. -/
theorem endsAmid_change {f : σ → σ} {s s' : σ} {u : Unit} :
    (change f).EndsAmid others s u s' ↔ ∃ t, others s t ∧ others (f t) s' := by
  constructor
  · rintro ⟨t, ht, -, h⟩
    exact ⟨t, ht, h⟩
  · rintro ⟨t, ht, h⟩
    exact ⟨t, ht, rfl, h⟩

/-- A routine on a part does what may be done to that part. -/
theorem amid_of_endsAmid_within (ho : Interference others) {part : Part σ τ}
    (hpart : ∀ f s, others s (part.modify f s)) {p : Routine τ α} {s s' : σ} {a : α}
    (h : (p.within part).EndsAmid others s a s') : others s s' := by
  induction p generalizing s with
  | done b => exact h.2
  | act change next ih =>
      obtain ⟨t, ht, hnext⟩ := h
      exact ho.trans (ho.trans ht (hpart change t)) (ih _ hnext)
  | clock next ih =>
      obtain ⟨x, hnext⟩ := h
      exact ih x hnext
  | sleep _ _ ih => exact ih h
  | acquire _ ih => exact ih h
  | release _ ih => exact ih h
  | launch _ _ ih => exact ih h
  | cancel _ _ ih => exact ih h
  | join _ _ ih => exact ih h

theorem endsAmid_alone (ho : Interference others) (p : Routine σ α) (t : Nat) (s : σ) :
    p.EndsAmid others s (p.alone t s).1 (p.alone t s).2.2 := by
  induction p generalizing t s with
  | done a => exact ⟨rfl, ho.refl s⟩
  | act change next ih => exact ⟨s, ho.refl s, ih s t (change s)⟩
  | clock next ih => exact ⟨t, ih t t s⟩
  | sleep d next ih => exact ih (t + d.nanos) s
  | acquire _ ih => exact ih t s
  | release _ ih => exact ih t s
  | launch _ _ ih => exact ih t s
  | cancel _ _ ih => exact ih t s
  | join _ _ ih => exact ih t s

end Routine

end HomeEnergy
