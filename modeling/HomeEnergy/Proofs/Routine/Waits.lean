import HomeEnergy.Proofs.Routine.Amid

/-!
# The waits of a routine

How long a routine takes depends on the timers, but for how long it asks to be left alone does not.
`Routine.EndsAfter` follows a routine to one of its ends and writes down each span for which it lets
time pass on its way, together with the state in which that wait begins.

## Main results

* `Routine.endsAfter_bind` — the waits of two routines in sequence.
* `Routine.endsAmid_iff_endsAfter` — every end comes behind some waits.
* `Routine.endsAfter_within` — where the waits of a routine on a part may begin.
-/

namespace HomeEnergy.Routine

variable {σ τ α β : Type}

/-- A wait: the state in which it begins, and its span. -/
abbrev Wait (σ : Type) := σ × Span

/-- A routine that begins in a state may end with a result in another state, behind these waits, in
their order, if others change the state between its steps. -/
def EndsAfter (others : σ → σ → Prop) :
    Routine σ α → σ → List (Wait σ) → α → σ → Prop
  | done a, s, ws, b, s' => ws = [] ∧ a = b ∧ others s s'
  | act change next, s, ws, b, s' =>
    ∃ t, others s t ∧ (next t).EndsAfter others (change t) ws b s'
  | clock next, s, ws, b, s' => ∃ t, (next t).EndsAfter others s ws b s'
  | sleep d next, s, ws, b, s' =>
    ∃ t rest, others s t ∧ ws = (t, d) :: rest ∧ next.EndsAfter others t rest b s'
  | acquire next, s, ws, b, s' => next.EndsAfter others s ws b s'
  | release next, s, ws, b, s' => next.EndsAfter others s ws b s'
  | launch _ next, s, ws, b, s' => next.EndsAfter others s ws b s'
  | cancel _ next, s, ws, b, s' => next.EndsAfter others s ws b s'
  | join _ next, s, ws, b, s' => next.EndsAfter others s ws b s'

variable {others : σ → σ → Prop}

/-- Others may act before a routine begins. -/
theorem EndsAfter.before (ho : Interference others) {p : Routine σ α} {s t s' : σ}
    {ws : List (Wait σ)} {b : α} (h : others s t) (hp : p.EndsAfter others t ws b s') :
    p.EndsAfter others s ws b s' := by
  induction p generalizing s t with
  | done a =>
      obtain ⟨hws, hab, hts⟩ := hp
      exact ⟨hws, hab, ho.trans h hts⟩
  | act change next _ =>
      obtain ⟨u, hu, hnext⟩ := hp
      exact ⟨u, ho.trans h hu, hnext⟩
  | clock next ih =>
      obtain ⟨x, hnext⟩ := hp
      exact ⟨x, ih x h hnext⟩
  | sleep d next _ =>
      obtain ⟨u, rest, hu, hws, hnext⟩ := hp
      exact ⟨u, rest, ho.trans h hu, hws, hnext⟩
  | acquire _ ih => exact ih h hp
  | release _ ih => exact ih h hp
  | launch _ _ ih => exact ih h hp
  | cancel _ _ ih => exact ih h hp
  | join _ _ ih => exact ih h hp

/-- The waits of the second routine come behind those of the first. -/
theorem endsAfter_bind (ho : Interference others) {p : Routine σ α} {f : α → Routine σ β}
    {s s'' : σ} {ws : List (Wait σ)} {b : β} :
    (p.bind f).EndsAfter others s ws b s'' ↔ ∃ a s' us vs,
      ws = us ++ vs ∧ p.EndsAfter others s us a s' ∧ (f a).EndsAfter others s' vs b s'' := by
  induction p generalizing s ws with
  | done a =>
      constructor
      · intro h
        exact ⟨a, s, [], ws, rfl, ⟨rfl, rfl, ho.refl s⟩, h⟩
      · rintro ⟨a', s', us, vs, rfl, ⟨rfl, rfl, hs⟩, h⟩
        exact h.before ho hs
  | act change next ih =>
      constructor
      · rintro ⟨t, ht, h⟩
        obtain ⟨a, s', us, vs, hws, hp, hf⟩ := (ih t).1 h
        exact ⟨a, s', us, vs, hws, ⟨t, ht, hp⟩, hf⟩
      · rintro ⟨a, s', us, vs, hws, ⟨t, ht, hp⟩, hf⟩
        exact ⟨t, ht, (ih t).2 ⟨a, s', us, vs, hws, hp, hf⟩⟩
  | clock next ih =>
      constructor
      · rintro ⟨t, ht⟩
        obtain ⟨a, s', us, vs, hws, hp, hf⟩ := (ih t).1 ht
        exact ⟨a, s', us, vs, hws, ⟨t, hp⟩, hf⟩
      · rintro ⟨a, s', us, vs, hws, ⟨t, hp⟩, hf⟩
        exact ⟨t, (ih t).2 ⟨a, s', us, vs, hws, hp, hf⟩⟩
  | sleep d next ih =>
      constructor
      · rintro ⟨t, rest, ht, rfl, h⟩
        obtain ⟨a, s', us, vs, rfl, hp, hf⟩ := ih.1 h
        exact ⟨a, s', (t, d) :: us, vs, rfl, ⟨t, us, ht, rfl, hp⟩, hf⟩
      · rintro ⟨a, s', us, vs, rfl, ⟨t, rest, ht, rfl, hp⟩, hf⟩
        exact ⟨t, rest ++ vs, ht, rfl, ih.2 ⟨a, s', rest, vs, rfl, hp, hf⟩⟩
  | acquire _ ih => exact ih
  | release _ ih => exact ih
  | launch _ _ ih => exact ih
  | cancel _ _ ih => exact ih
  | join _ _ ih => exact ih

theorem endsAfter_do (ho : Interference others) {p : Routine σ α} {f : α → Routine σ β}
    {s s'' : σ} {ws : List (Wait σ)} {b : β} :
    (p >>= f).EndsAfter others s ws b s'' ↔ ∃ a s' us vs,
      ws = us ++ vs ∧ p.EndsAfter others s us a s' ∧ (f a).EndsAfter others s' vs b s'' :=
  endsAfter_bind ho

/-- A change takes no time. -/
theorem endsAfter_change {f : σ → σ} {s s' : σ} {ws : List (Wait σ)} {u : Unit} :
    (change f).EndsAfter others s ws u s' ↔
      ws = [] ∧ ∃ t, others s t ∧ others (f t) s' := by
  constructor
  · rintro ⟨t, ht, hws, -, h⟩
    exact ⟨hws, t, ht, h⟩
  · rintro ⟨hws, t, ht, h⟩
    exact ⟨t, ht, hws, rfl, h⟩

theorem endsAfter_pause {d : Span} {s s' : σ} {ws : List (Wait σ)} {u : Unit} :
    (pause d).EndsAfter others s ws u s' ↔
      ∃ t, others s t ∧ ws = [(t, d)] ∧ others t s' := by
  constructor
  · rintro ⟨t, rest, ht, hws, rfl, -, h⟩
    exact ⟨t, ht, hws, h⟩
  · rintro ⟨t, ht, hws, h⟩
    exact ⟨t, [], ht, hws, rfl, rfl, h⟩

/-- Every end comes behind some waits. -/
theorem endsAmid_iff_endsAfter (ho : Interference others) {p : Routine σ α} {s s' : σ} {a : α} :
    p.EndsAmid others s a s' ↔ ∃ ws, p.EndsAfter others s ws a s' := by
  induction p generalizing s with
  | done b =>
      constructor
      · rintro ⟨hab, hs⟩
        exact ⟨[], rfl, hab, hs⟩
      · rintro ⟨ws, -, hab, hs⟩
        exact ⟨hab, hs⟩
  | act change next ih =>
      constructor
      · rintro ⟨t, ht, h⟩
        obtain ⟨ws, hws⟩ := (ih t).1 h
        exact ⟨ws, t, ht, hws⟩
      · rintro ⟨ws, t, ht, h⟩
        exact ⟨t, ht, (ih t).2 ⟨ws, h⟩⟩
  | clock next ih =>
      constructor
      · rintro ⟨t, h⟩
        obtain ⟨ws, hws⟩ := (ih t).1 h
        exact ⟨ws, t, hws⟩
      · rintro ⟨ws, t, h⟩
        exact ⟨t, (ih t).2 ⟨ws, h⟩⟩
  | sleep d next ih =>
      constructor
      · intro h
        obtain ⟨ws, hws⟩ := ih.1 h
        exact ⟨(s, d) :: ws, s, ws, ho.refl s, rfl, hws⟩
      · rintro ⟨ws, t, rest, ht, -, h⟩
        exact EndsAmid.before ho ht (ih.2 ⟨rest, h⟩)
  | acquire _ ih => exact ih
  | release _ ih => exact ih
  | launch _ _ ih => exact ih
  | cancel _ _ ih => exact ih
  | join _ _ ih => exact ih

/-- A routine on a part waits in states that differ by what may be done to that part. -/
theorem endsAfter_within (ho : Interference others) {part : Part σ τ}
    (hpart : ∀ f s, others s (part.modify f s)) {p : Routine τ α} {s s' : σ}
    {ws : List (Wait σ)} {a : α} (h : (p.within part).EndsAfter others s ws a s') :
    others s s' ∧ ∀ w ∈ ws, others s w.1 := by
  induction p generalizing s ws with
  | done b =>
      obtain ⟨rfl, -, hs⟩ := h
      exact ⟨hs, fun w hw => absurd hw List.not_mem_nil⟩
  | act change next ih =>
      obtain ⟨t, ht, hnext⟩ := h
      obtain ⟨hend, hwaits⟩ := ih _ hnext
      have hchange := ho.trans ht (hpart change t)
      exact ⟨ho.trans hchange hend, fun w hw => ho.trans hchange (hwaits w hw)⟩
  | clock next ih =>
      obtain ⟨x, hnext⟩ := h
      exact ih x hnext
  | sleep d next ih =>
      obtain ⟨t, rest, ht, rfl, hnext⟩ := h
      obtain ⟨hend, hwaits⟩ := ih hnext
      refine ⟨ho.trans ht hend, ?_⟩
      intro w hw
      rcases List.mem_cons.1 hw with rfl | hw
      · exact ht
      · exact ho.trans ht (hwaits w hw)
  | acquire _ ih => exact ih h
  | release _ ih => exact ih h
  | launch _ _ ih => exact ih h
  | cancel _ _ ih => exact ih h
  | join _ _ ih => exact ih h

end HomeEnergy.Routine
