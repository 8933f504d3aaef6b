import HomeEnergy.Proofs.Routine.Laws

/-!
# Routines that go through phases

Some changes of a routine come in a fixed order: one may come only after another one, and then it
has to come. `Routine.Phased` tells how far a routine has come by a phase, each change leading from
a phase to a phase, and says with which results and in which phases the routine ends. A routine that
makes changes of one kind only stays in its phase.

## Main results

* `Routine.phased_bind` — routines in sequence: the second one begins in the phase in which the
  first one has ended.
* `Routine.phased_of_keeps` — routines that stay in their phase.
* `Routine.Advances.phased` — each step leads from a phase to a phase.
-/

namespace HomeEnergy.Routine

variable {σ φ α β : Type}

/-- A routine goes from phase to phase by its changes, and ends with a result and in a phase of
which something holds. -/
def Phased (shift : φ → σ → σ → φ → Prop) (post : α → φ → Prop) : Routine σ α → φ → Prop
  | done a, ph => post a ph
  | act change next, ph =>
    ∀ s, ∃ ph', shift ph s (change s) ph' ∧ (next s).Phased shift post ph'
  | clock next, ph => ∀ t, (next t).Phased shift post ph
  | sleep _ next, ph => next.Phased shift post ph
  | acquire next, ph => next.Phased shift post ph
  | release next, ph => next.Phased shift post ph
  | launch _ next, ph => next.Phased shift post ph
  | cancel _ next, ph => next.Phased shift post ph
  | join _ next, ph => next.Phased shift post ph

/-- Something holds of all results of a routine. -/
def Yields (P : α → Prop) : Routine σ α → Prop
  | done a => P a
  | act _ next => ∀ s, (next s).Yields P
  | clock next => ∀ t, (next t).Yields P
  | sleep _ next => next.Yields P
  | acquire next => next.Yields P
  | release next => next.Yields P
  | launch _ next => next.Yields P
  | cancel _ next => next.Yields P
  | join _ next => next.Yields P

variable {shift : φ → σ → σ → φ → Prop} {post : α → φ → Prop} {post' : β → φ → Prop} {ph : φ}
variable {R : σ → σ → Prop} {P : α → Prop} {Q : β → Prop}

/-! ## Results -/

/-- What comes out of the second of two routines is all that counts. -/
theorem yields_bind {p : Routine σ α} {f : α → Routine σ β} (hp : p.Yields P)
    (hf : ∀ a, P a → (f a).Yields Q) : (p.bind f).Yields Q := by
  induction p with
  | done a => exact hf a hp
  | act change next ih => exact fun s => ih s (hp s)
  | clock next ih => exact fun t => ih t (hp t)
  | sleep _ _ ih => exact ih hp
  | acquire _ ih => exact ih hp
  | release _ ih => exact ih hp
  | launch _ _ ih => exact ih hp
  | cancel _ _ ih => exact ih hp
  | join _ _ ih => exact ih hp

/-- What holds of everything holds of all results. -/
theorem yields_of_forall (h : ∀ a, P a) (p : Routine σ α) : p.Yields P := by
  induction p with
  | done a => exact h a
  | act change next ih => exact ih
  | clock next ih => exact ih
  | sleep _ _ ih => exact ih
  | acquire _ ih => exact ih
  | release _ ih => exact ih
  | launch _ _ ih => exact ih
  | cancel _ _ ih => exact ih
  | join _ _ ih => exact ih

theorem yields_any (p : Routine σ α) : p.Yields fun _ => True :=
  yields_of_forall (fun _ => trivial) p

/-- Whatever the first of two routines yields. -/
theorem yields_after {p : Routine σ α} {f : α → Routine σ β} (hf : ∀ a, (f a).Yields Q) :
    (p >>= f).Yields Q := yields_bind (yields_any p) fun a _ => hf a

theorem yields_pure {a : α} (h : P a) : (pure a : Routine σ α).Yields P := h

/-! ## Phases -/

theorem phased_bind {p : Routine σ α} {f : α → Routine σ β} (hp : p.Phased shift post ph)
    (hf : ∀ a ph', post a ph' → (f a).Phased shift post' ph') :
    (p.bind f).Phased shift post' ph := by
  induction p generalizing ph with
  | done a => exact hf a ph hp
  | act change next ih =>
      intro s
      obtain ⟨ph', hshift, hnext⟩ := hp s
      exact ⟨ph', hshift, ih s hnext⟩
  | clock next ih => exact fun t => ih t (hp t)
  | sleep _ _ ih => exact ih hp
  | acquire _ ih => exact ih hp
  | release _ ih => exact ih hp
  | launch _ _ ih => exact ih hp
  | cancel _ _ ih => exact ih hp
  | join _ _ ih => exact ih hp

theorem phased_do {p : Routine σ α} {f : α → Routine σ β} (hp : p.Phased shift post ph)
    (hf : ∀ a ph', post a ph' → (f a).Phased shift post' ph') :
    (p >>= f).Phased shift post' ph := phased_bind hp hf

/-- What holds at the end may be said more weakly. -/
theorem Phased.imp {post₂ : α → φ → Prop} {p : Routine σ α} (hp : p.Phased shift post ph)
    (h : ∀ a last, post a last → post₂ a last) : p.Phased shift post₂ ph := by
  have hbind : (p.bind done).Phased shift post₂ ph := phased_bind hp h
  rwa [bind_pure] at hbind

theorem phased_pure {a : α} (h : post a ph) : (pure a : Routine σ α).Phased shift post ph := h

theorem phased_change {f : σ → σ} {ph' : φ} (h : ∀ s, shift ph s (f s) ph') :
    (change f).Phased shift (fun _ end_ => end_ = ph') ph :=
  fun s => ⟨ph', h s, rfl⟩

/-- Changes of a kind that keeps every phase. -/
theorem phased_of_keeps {p : Routine σ α} (hp : p.Keeps R) (hresult : p.Yields P)
    (hshift : ∀ s t, R s t → shift ph s t ph) :
    p.Phased shift (fun a end_ => end_ = ph ∧ P a) ph := by
  induction p with
  | done a => exact ⟨rfl, hresult⟩
  | act change next ih =>
      intro s
      exact ⟨ph, hshift s _ (hp s).1, ih s (hp s).2 (hresult s)⟩
  | clock next ih => exact fun t => ih t (hp t) (hresult t)
  | sleep _ _ ih => exact ih hp hresult
  | acquire _ ih => exact ih hp hresult
  | release _ ih => exact ih hp hresult
  | launch _ _ ih => exact ih hp hresult
  | cancel _ _ ih => exact ih hp hresult
  | join _ _ ih => exact ih hp hresult

/-- Each step shifts the phase, or leaves the state and the phase as they are. -/
theorem Advances.phased {p q : Routine σ α} {s s' : σ} (h : p.Advances s q s')
    (hp : p.Phased shift post ph) :
    ∃ ph', q.Phased shift post ph' ∧ (shift ph s s' ph' ∨ (ph' = ph ∧ s' = s)) := by
  cases h with
  | act change next s =>
      obtain ⟨ph', hshift, hnext⟩ := hp s
      exact ⟨ph', hnext, .inl hshift⟩
  | clock _ t _ => exact ⟨ph, hp t, .inr ⟨rfl, rfl⟩⟩
  | sleep _ _ _ => exact ⟨ph, hp, .inr ⟨rfl, rfl⟩⟩
  | launch _ _ _ => exact ⟨ph, hp, .inr ⟨rfl, rfl⟩⟩
  | cancel _ _ _ => exact ⟨ph, hp, .inr ⟨rfl, rfl⟩⟩
  | join _ _ _ => exact ⟨ph, hp, .inr ⟨rfl, rfl⟩⟩

end HomeEnergy.Routine
