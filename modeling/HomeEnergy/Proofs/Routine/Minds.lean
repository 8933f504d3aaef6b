import HomeEnergy.Proofs.Routine.Amid

/-!
# Routines that mind their own business

Two states may be alike in all that a routine has to do with, and differ in the rest. A routine
minds its own business if it does the same in both and goes on in the same way, at each of its
steps, and if whatever it does is one of the works that are its own. Routines with different
business can then take their steps in either order.

## Main results

* `Routine.minds_bind`, `Routine.minds_within` — routines in sequence, and on a part.
* `Routine.minds_advance` — a step, from all states that are alike at once.
-/

namespace HomeEnergy.Routine

variable {σ τ α β : Type}

/-- At each step, what is done and how it goes on is the same in all states that are `alike`, and
what is done is one of the `works`. -/
def Minds (alike : σ → σ → Prop) (works : (σ → σ) → Prop) : Routine σ α → Prop
  | done _ => True
  | act change next => ∀ s,
      (∃ work, works work ∧ ∀ t, alike s t → change t = work t ∧ next t = next s) ∧
        (next s).Minds alike works
  | clock next => ∀ t, (next t).Minds alike works
  | sleep _ next => next.Minds alike works
  | acquire next => next.Minds alike works
  | release next => next.Minds alike works
  | launch _ next => next.Minds alike works
  | cancel _ next => next.Minds alike works
  | join _ next => next.Minds alike works

variable {alike : σ → σ → Prop} {works : (σ → σ) → Prop}

theorem minds_bind {p : Routine σ α} {f : α → Routine σ β} (hp : p.Minds alike works)
    (hf : ∀ a, (f a).Minds alike works) : (p.bind f).Minds alike works := by
  induction p with
  | done a => exact hf a
  | act change next ih =>
      intro s
      obtain ⟨⟨work, hwork, hsame⟩, hnext⟩ := hp s
      refine ⟨⟨work, hwork, fun t ht => ⟨(hsame t ht).1, ?_⟩⟩, ih s hnext⟩
      exact congrArg (bind · f) (hsame t ht).2
  | clock next ih => exact fun t => ih t (hp t)
  | sleep _ _ ih => exact ih hp
  | acquire _ ih => exact ih hp
  | release _ ih => exact ih hp
  | launch _ _ ih => exact ih hp
  | cancel _ _ ih => exact ih hp
  | join _ _ ih => exact ih hp

theorem minds_do {p : Routine σ α} {f : α → Routine σ β} (hp : p.Minds alike works)
    (hf : ∀ a, (f a).Minds alike works) : (p >>= f).Minds alike works := minds_bind hp hf

theorem minds_pure (a : α) : (pure a : Routine σ α).Minds alike works := trivial

theorem minds_change {f : σ → σ}
    (h : ∀ s, ∃ work, works work ∧ ∀ t, alike s t → f t = work t) :
    (change f).Minds alike works := by
  intro s
  obtain ⟨work, hwork, hsame⟩ := h s
  exact ⟨⟨work, hwork, fun t ht => ⟨hsame t ht, rfl⟩⟩, trivial⟩

/-- A routine on a part minds its own business if the part is its own. -/
theorem minds_within {part : Part σ τ} (hget : ∀ s t, alike s t → part.get t = part.get s)
    (hset : ∀ f, works (part.modify f)) (p : Routine τ α) :
    (p.within part).Minds alike works := by
  induction p with
  | done a => exact trivial
  | act change next ih =>
      intro s
      refine ⟨⟨part.modify change, hset change, fun t ht => ⟨rfl, ?_⟩⟩, ih (part.get s)⟩
      exact congrArg (fun r => (next r).within part) (hget s t ht)
  | clock next ih => exact fun t => ih t
  | sleep _ _ ih => exact ih
  | acquire _ ih => exact ih
  | release _ ih => exact ih
  | launch _ _ ih => exact ih
  | cancel _ _ ih => exact ih
  | join _ _ ih => exact ih

/-! ## One step -/

/-- One step of a routine: what is left of it, and the state. The clock shows a time that is given,
and what the routine waits for has come. -/
def advance (clockShows : Nat) : Routine σ α → σ → Routine σ α × σ
  | done a, s => (done a, s)
  | act change next, s => (next s, change s)
  | clock next, s => (next clockShows, s)
  | sleep _ next, s => (next, s)
  | acquire next, s => (next, s)
  | release next, s => (next, s)
  | launch _ next, s => (next, s)
  | cancel _ next, s => (next, s)
  | join _ next, s => (next, s)

/-- The result of a routine that has ended. -/
def result? : Routine σ α → Option α
  | done a => some a
  | _ => none

theorem eq_done_of_result? {p : Routine σ α} (h : p.result?.isSome = true) : ∃ a, p = done a := by
  cases p with
  | done a => exact ⟨a, rfl⟩
  | _ => cases h

/-- A step is one work, in all states that are alike. -/
theorem minds_advance (hid : works id) {p : Routine σ α} (hp : p.Minds alike works) (n : Nat)
    (s : σ) : (p.advance n s).1.Minds alike works ∧
      ∃ work, works work ∧ ∀ t, alike s t → p.advance n t = ((p.advance n s).1, work t) := by
  cases p with
  | act change next =>
      obtain ⟨⟨work, hwork, hsame⟩, hnext⟩ := hp s
      refine ⟨hnext, work, hwork, fun t ht => ?_⟩
      obtain ⟨hchange, hgo⟩ := hsame t ht
      exact Prod.ext hgo hchange
  | clock next => exact ⟨hp n, id, hid, fun _ _ => rfl⟩
  | done a => exact ⟨hp, id, hid, fun _ _ => rfl⟩
  | sleep _ next => exact ⟨hp, id, hid, fun _ _ => rfl⟩
  | acquire next => exact ⟨hp, id, hid, fun _ _ => rfl⟩
  | release next => exact ⟨hp, id, hid, fun _ _ => rfl⟩
  | launch _ next => exact ⟨hp, id, hid, fun _ _ => rfl⟩
  | cancel _ next => exact ⟨hp, id, hid, fun _ _ => rfl⟩
  | join _ next => exact ⟨hp, id, hid, fun _ _ => rfl⟩

/-- However a routine ends behind a step, it may have ended so before it. -/
theorem endsAmid_advance {others : σ → σ → Prop} (ho : Interference others) {p : Routine σ α}
    {n : Nat} {s e : σ} {r : α}
    (h : (p.advance n s).1.EndsAmid others (p.advance n s).2 r e) : p.EndsAmid others s r e := by
  cases p with
  | act change next => exact ⟨s, ho.refl s, h⟩
  | clock next => exact ⟨n, h⟩
  | done a => exact h
  | sleep _ next => exact h
  | acquire next => exact h
  | release next => exact h
  | launch _ next => exact h
  | cancel _ next => exact h
  | join _ next => exact h

end HomeEnergy.Routine
