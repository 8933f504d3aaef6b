import HomeEnergy.Proofs.Routine.Amid
import Mathlib.Data.List.Nodup
import Mathlib.Logic.Relation

/-!
# Calls under one lock

Any number of calls work on one state, step by step and in any order, and something outside may
change the state between any two of their steps. Each call does all that it does with the lock held.
Then the calls make a row, in the order in which they take the lock, and what each of them does and
yields is what it would do and yield if the calls before it in the row had been made before it, one
after the other, and no others.

## Main results

* `Routine.inside_of_lockless` — a routine under the lock gives it back as its last step.
* `Crowd.Serialized.step` — what every step of every call preserves.
* `Crowd.serialized_of_reach` — what holds of every course of a crowd.
-/

namespace HomeEnergy

/-! ## Routines under the lock -/

namespace Routine

variable {σ τ α β : Type}

/-- A routine that leaves the lock alone. -/
def Lockless : Routine σ α → Prop
  | done _ => True
  | act _ next => ∀ s, (next s).Lockless
  | clock next => ∀ t, (next t).Lockless
  | sleep _ next => next.Lockless
  | acquire _ => False
  | release _ => False
  | launch _ next => next.Lockless
  | cancel _ next => next.Lockless
  | join _ next => next.Lockless

/-- A routine that has the lock, and gives it back as its last step. -/
def Inside : Routine σ α → Prop
  | done _ => False
  | act _ next => ∀ s, (next s).Inside
  | clock next => ∀ t, (next t).Inside
  | sleep _ next => next.Inside
  | acquire _ => False
  | release next => ∃ a, next = done a
  | launch _ next => next.Inside
  | cancel _ next => next.Inside
  | join _ next => next.Inside

theorem lockless_bind {p : Routine σ α} {f : α → Routine σ β} (hp : p.Lockless)
    (hf : ∀ a, (f a).Lockless) : (p.bind f).Lockless := by
  induction p with
  | done a => exact hf a
  | act change next ih => exact fun s => ih s (hp s)
  | clock next ih => exact fun t => ih t (hp t)
  | sleep _ _ ih => exact ih hp
  | acquire _ _ => exact hp.elim
  | release _ _ => exact hp.elim
  | launch _ _ ih => exact ih hp
  | cancel _ _ ih => exact ih hp
  | join _ _ ih => exact ih hp

theorem lockless_do {p : Routine σ α} {f : α → Routine σ β} (hp : p.Lockless)
    (hf : ∀ a, (f a).Lockless) : (p >>= f).Lockless := lockless_bind hp hf

theorem lockless_pure (a : α) : (pure a : Routine σ α).Lockless := trivial

theorem lockless_change (f : σ → σ) : (change f).Lockless := fun _ => trivial

theorem lockless_within {part : Part σ τ} {p : Routine τ α} (hp : p.Lockless) :
    (p.within part).Lockless := by
  induction p with
  | done a => exact trivial
  | act change next ih => exact fun s => ih _ (hp _)
  | clock next ih => exact fun t => ih t (hp t)
  | sleep _ _ ih => exact ih hp
  | acquire _ _ => exact hp.elim
  | release _ _ => exact hp.elim
  | launch _ _ ih => exact ih hp
  | cancel _ _ ih => exact ih hp
  | join _ _ ih => exact ih hp

theorem inside_of_lockless {p : Routine σ α} (hp : p.Lockless) :
    (p.bind fun a => release (done a)).Inside := by
  induction p with
  | done a => exact ⟨a, rfl⟩
  | act change next ih => exact fun s => ih s (hp s)
  | clock next ih => exact fun t => ih t (hp t)
  | sleep _ _ ih => exact ih hp
  | acquire _ _ => exact hp.elim
  | release _ _ => exact hp.elim
  | launch _ _ ih => exact ih hp
  | cancel _ _ ih => exact ih hp
  | join _ _ ih => exact ih hp

/-- A routine goes one step on that has nothing to do with the lock. What it waits for may come at
any time, and the clock may show anything. -/
inductive Advances : Routine σ α → σ → Routine σ α → σ → Prop where
  | act (change : σ → σ) (next : σ → Routine σ α) (s : σ) :
      Advances (.act change next) s (next s) (change s)
  | clock (next : Nat → Routine σ α) (t : Nat) (s : σ) : Advances (.clock next) s (next t) s
  | sleep (d : Span) (next : Routine σ α) (s : σ) : Advances (.sleep d next) s next s
  | launch (task : Nat) (next : Routine σ α) (s : σ) : Advances (.launch task next) s next s
  | cancel (task : Nat) (next : Routine σ α) (s : σ) : Advances (.cancel task next) s next s
  | join (task : Nat) (next : Routine σ α) (s : σ) : Advances (.join task next) s next s

variable {others : σ → σ → Prop}

theorem Advances.inside {p q : Routine σ α} {s s' : σ} (h : p.Advances s q s') (hp : p.Inside) :
    q.Inside := by
  cases h with
  | act _ _ s => exact hp s
  | clock _ t _ => exact hp t
  | sleep _ _ _ => exact hp
  | launch _ _ _ => exact hp
  | cancel _ _ _ => exact hp
  | join _ _ _ => exact hp

/-- However a routine ends behind a step, it may have ended so before it. -/
theorem Advances.endsAmid (ho : Interference others) {p q : Routine σ α} {s s' e : σ} {r : α}
    (h : p.Advances s q s') (hq : q.EndsAmid others s' r e) : p.EndsAmid others s r e := by
  cases h with
  | act _ _ s => exact ⟨s, ho.refl s, hq⟩
  | clock _ t _ => exact ⟨t, hq⟩
  | sleep _ _ _ => exact hq
  | launch _ _ _ => exact hq
  | cancel _ _ _ => exact hq
  | join _ _ _ => exact hq

end Routine

/-! ## Crowds -/

/-- A call: all of it, and what is left of it. -/
structure Guest (σ : Type) where
  Result : Type
  whole : Routine σ Result
  rest : Routine σ Result

/-- A state and the calls that work on it. -/
structure Crowd (σ : Type) where
  state : σ
  /-- Whether the lock is held. -/
  held : Bool := false
  /-- In the order in which they came. -/
  guests : List (Guest σ) := []
  /-- Who has taken the lock, in the order in which they did. -/
  taken : List Nat := []
  /-- Who has given the lock back, in the order in which they did. -/
  given : List Nat := []

variable {σ α : Type}

namespace Guest

/-- A call that has just come. -/
def of (p : Routine σ α) : Guest σ := ⟨α, p, p⟩

/-- A call goes on. -/
def left (g : Guest σ) (rest : Routine σ g.Result) : Guest σ := { g with rest }

/-- A call that has just come and does all that it does under the lock. -/
def Locked (g : Guest σ) : Prop :=
  ∃ p : Routine σ g.Result, p.Lockless ∧ g.whole = p.locked ∧ g.rest = p.locked

theorem locked_of {p : Routine σ α} (hp : p.Lockless) : (of p.locked).Locked := ⟨p, hp, rfl, rfl⟩

end Guest

namespace Crowd

/-- A call goes on, and has changed the state. -/
def goOn (c : Crowd σ) (i : Nat) (g : Guest σ) (rest : Routine σ g.Result) (s : σ) : Crowd σ :=
  { c with state := s, guests := c.guests.set i (g.left rest) }

/-- One step: a call comes, something outside changes the state, or one of the calls goes on, takes
the lock or gives it back. -/
inductive Step (calls : Guest σ → Prop) (others : σ → σ → Prop) (c : Crowd σ) :
    Crowd σ → Prop where
  | come {g : Guest σ} (call : calls g) : Step calls others c { c with guests := c.guests ++ [g] }
  | outside {s : σ} (change : others c.state s) : Step calls others c { c with state := s }
  | go {i : Nat} {g : Guest σ} {rest : Routine σ g.Result} {s : σ}
      (guest : c.guests[i]? = some g) (step : g.rest.Advances c.state rest s) :
      Step calls others c (c.goOn i g rest s)
  | take {i : Nat} {g : Guest σ} {rest : Routine σ g.Result} (guest : c.guests[i]? = some g)
      (waits : g.rest = .acquire rest) (free : c.held = false) :
      Step calls others c
        { c.goOn i g rest c.state with held := true, taken := c.taken ++ [i] }
  | give {i : Nat} {g : Guest σ} {rest : Routine σ g.Result} (guest : c.guests[i]? = some g)
      (gives : g.rest = .release rest) :
      Step calls others c
        { c.goOn i g rest c.state with held := false, given := c.given ++ [i] }

/-- Any number of steps. -/
abbrev Reach (calls : Guest σ → Prop) (others : σ → σ → Prop) : Crowd σ → Crowd σ → Prop :=
  Relation.ReflTransGen (Step calls others)

/-- Calls are made one after the other, each from where the one before it has ended, and each of
them yields what it has yielded. -/
def InTurn (others : σ → σ → Prop) (guests : List (Guest σ)) : List Nat → σ → σ → Prop
  | [], s, s' => others s s'
  | i :: is, s, s' => ∃ g r m, guests[i]? = some g ∧ g.rest = .done r ∧
      g.whole.EndsAmid others s r m ∧ InTurn others guests is m s'

variable {others : σ → σ → Prop}

/-- Only the calls in the row matter. -/
theorem InTurn.congr {guests guests' : List (Guest σ)} {is : List Nat} {s s' : σ}
    (h : InTurn others guests is s s') (heq : ∀ i ∈ is, guests'[i]? = guests[i]?) :
    InTurn others guests' is s s' := by
  induction is generalizing s with
  | nil => exact h
  | cons i is ih =>
      obtain ⟨g, r, m, hg, hrest, hwhole, hnext⟩ := h
      have hg' : guests'[i]? = some g := by
        rw [heq i List.mem_cons_self]
        exact hg
      have heq' : ∀ j ∈ is, guests'[j]? = guests[j]? := by
        intro j hj
        exact heq j (List.mem_cons_of_mem i hj)
      exact ⟨g, r, m, hg', hrest, hwhole, ih hnext heq'⟩

/-- One more call behind the others. -/
theorem InTurn.concat (ho : Routine.Interference others) {guests : List (Guest σ)} {is : List Nat}
    {i : Nat} {g : Guest σ} {r : g.Result} {s m s' : σ} (h : InTurn others guests is s m)
    (hg : guests[i]? = some g) (hrest : g.rest = .done r)
    (hwhole : g.whole.EndsAmid others m r s') : InTurn others guests (is ++ [i]) s s' := by
  induction is generalizing s with
  | nil => exact ⟨g, r, s', hg, hrest, hwhole.before ho h, ho.refl s'⟩
  | cons j is ih =>
      obtain ⟨g', r', m', hg', hrest', hwhole', hnext⟩ := h
      exact ⟨g', r', m', hg', hrest', hwhole', ih hnext⟩

/-- Something outside may change the state behind the last call. -/
theorem InTurn.after (ho : Routine.Interference others) {guests : List (Guest σ)} {is : List Nat}
    {s m s' : σ} (h : InTurn others guests is s m) (hm : others m s') :
    InTurn others guests is s s' := by
  induction is generalizing s with
  | nil => exact ho.trans h hm
  | cons i is ih =>
      obtain ⟨g, r, x, hg, hrest, hwhole, hnext⟩ := h
      exact ⟨g, r, x, hg, hrest, hwhole, ih hnext⟩

/-! ## What every step preserves -/

/-- Where a call stands: it waits for the lock, has it, or is over. -/
inductive Stands (c : Crowd σ) (i : Nat) (g : Guest σ) : Prop where
  | waiting (out : i ∉ c.taken) (call : g.Locked)
  | inside (last : c.taken = c.given ++ [i]) (rest : g.rest.Inside)
  | finished (given : i ∈ c.given) (r : g.Result) (rest : g.rest = .done r)

/-- Where a call stands depends only on who has taken the lock and who has given it back. -/
theorem Stands.same {c c' : Crowd σ} {i : Nat} {g : Guest σ} (h : Stands c i g)
    (htaken : c'.taken = c.taken) (hgiven : c'.given = c.given) : Stands c' i g := by
  cases h with
  | waiting out call => exact .waiting (by rw [htaken]; exact out) call
  | inside last rest => exact .inside (by rw [htaken, hgiven]; exact last) rest
  | finished given r rest => exact .finished (by rw [hgiven]; exact given) r rest

/-- Those who have given the lock back have been served one after the other. The one who has the
lock, if there is one, goes on as it would have gone on behind them. -/
structure Served (others : σ → σ → Prop) (s₀ s : σ) (c : Crowd σ) : Prop where
  past : InTurn others c.guests c.given s₀ s
  free : c.taken = c.given → others s c.state
  inside : ∀ i g, c.guests[i]? = some g → c.taken = c.given ++ [i] → ∀ r e,
    g.rest.EndsAmid others c.state r e → g.whole.EndsAmid others s r e

/-- Nobody works on the state without the lock, and one after the other is served. -/
structure Serialized (others : σ → σ → Prop) (s₀ : σ) (c : Crowd σ) : Prop where
  known : ∀ i ∈ c.taken, i < c.guests.length
  nodup : c.taken.Nodup
  free : c.held = false → c.taken = c.given
  lock : c.taken = c.given ∨ ∃ i, c.taken = c.given ++ [i]
  stands : ∀ i g, c.guests[i]? = some g → Stands c i g
  served : ∃ s, Served others s₀ s c

/-- The calls, when one of them has gone on. -/
theorem guest_cases {c : Crowd σ} {i j : Nat} {g g' : Guest σ} {rest : Routine σ g.Result}
    (hi : c.guests[i]? = some g) (hj : (c.guests.set i (g.left rest))[j]? = some g') :
    (j = i ∧ g' = g.left rest) ∨ (j ≠ i ∧ c.guests[j]? = some g') := by
  by_cases hji : j = i
  · subst hji
    have hlt := (List.getElem?_eq_some_iff.1 hi).1
    rw [List.getElem?_set_self hlt] at hj
    exact .inl ⟨rfl, (Option.some.inj hj).symm⟩
  · rw [List.getElem?_set_ne (Ne.symm hji)] at hj
    exact .inr ⟨hji, hj⟩

/-- A call that goes on is none of those in the row. -/
theorem InTurn.goOn {c : Crowd σ} {is : List Nat} {s s' : σ} (h : InTurn others c.guests is s s')
    {i : Nat} (hi : i ∉ is) (g : Guest σ) (rest : Routine σ g.Result) (t : σ) :
    InTurn others (c.goOn i g rest t).guests is s s' := by
  refine h.congr ?_
  intro j hj
  have hij : i ≠ j := by
    rintro rfl
    exact hi hj
  exact List.getElem?_set_ne hij

namespace Serialized

variable {s₀ : σ} {c c' : Crowd σ}

theorem fresh (ho : Routine.Interference others) (s : σ) :
    Serialized others s ({ state := s } : Crowd σ) where
  known := by simp
  nodup := List.nodup_nil
  free _ := rfl
  lock := .inl rfl
  stands := by simp
  served := ⟨s, ho.refl s, fun _ => ho.refl s, by simp⟩

theorem given_subset (h : Serialized others s₀ c) {i : Nat} (hi : i ∈ c.given) : i ∈ c.taken := by
  rcases h.lock with heq | ⟨j, hj⟩
  · rw [heq]
    exact hi
  · rw [hj]
    exact List.mem_append_left [j] hi

/-- Whoever has the lock has not given it back yet. -/
theorem not_given (h : Serialized others s₀ c) {i : Nat} (hi : c.taken = c.given ++ [i]) :
    i ∉ c.given := by
  have hnodup := h.nodup
  rw [hi] at hnodup
  intro hmem
  exact (List.disjoint_of_nodup_append hnodup) hmem List.mem_cons_self

/-- Only the one who has the lock goes on. -/
theorem inside_of_advances (h : Serialized others s₀ c) {i : Nat} {g : Guest σ}
    (hg : c.guests[i]? = some g) {rest : Routine σ g.Result} {s : σ}
    (hstep : g.rest.Advances c.state rest s) : c.taken = c.given ++ [i] ∧ g.rest.Inside := by
  cases h.stands i g hg with
  | waiting _ call =>
      obtain ⟨p, _, _, hrest⟩ := call
      rw [hrest] at hstep
      cases hstep
  | inside last rest => exact ⟨last, rest⟩
  | finished _ r hrest =>
      rw [hrest] at hstep
      cases hstep

theorem come (h : Serialized others s₀ c) {g : Guest σ} (hg : g.Locked) :
    Serialized others s₀ { c with guests := c.guests ++ [g] } := by
  have hold : ∀ i ∈ c.taken, (c.guests ++ [g])[i]? = c.guests[i]? := by
    intro i hi
    exact List.getElem?_append_left (h.known i hi)
  obtain ⟨s, hserved⟩ := h.served
  refine ⟨?_, h.nodup, h.free, h.lock, ?_, s, ?_, hserved.free, ?_⟩
  · intro i hi
    have := h.known i hi
    simp only [List.length_append, List.length_singleton]
    omega
  · intro i g' hg'
    by_cases hi : i < c.guests.length
    · rw [List.getElem?_append_left hi] at hg'
      exact (h.stands i g' hg').same rfl rfl
    · have hout : i ∉ c.taken := by
        intro hmem
        exact hi (h.known i hmem)
      rw [List.getElem?_append_right (by omega)] at hg'
      have hgg : g' = g := by
        have hmem := List.mem_of_getElem? hg'
        simpa using hmem
      exact .waiting hout (hgg ▸ hg)
  · refine hserved.past.congr ?_
    intro i hi
    exact hold i (h.given_subset hi)
  · intro i g' hg' hlast
    have hmem : i ∈ c.taken := by
      rw [hlast]
      simp
    rw [hold i hmem] at hg'
    exact hserved.inside i g' hg' hlast

theorem outside (ho : Routine.Interference others) (h : Serialized others s₀ c) {s : σ}
    (hs : others c.state s) : Serialized others s₀ { c with state := s } := by
  obtain ⟨m, hserved⟩ := h.served
  refine ⟨h.known, h.nodup, h.free, h.lock, ?_, m, hserved.past, ?_, ?_⟩
  · intro i g hg
    exact (h.stands i g hg).same rfl rfl
  · intro heq
    exact ho.trans (hserved.free heq) hs
  · intro i g hg hlast r e hrest
    exact hserved.inside i g hg hlast r e (hrest.before ho hs)

theorem go (ho : Routine.Interference others) (h : Serialized others s₀ c) {i : Nat} {g : Guest σ}
    (hg : c.guests[i]? = some g) {rest : Routine σ g.Result} {s : σ}
    (hstep : g.rest.Advances c.state rest s) : Serialized others s₀ (c.goOn i g rest s) := by
  obtain ⟨hlast, hinside⟩ := h.inside_of_advances hg hstep
  obtain ⟨m, hserved⟩ := h.served
  refine ⟨?_, h.nodup, h.free, h.lock, ?_, m, ?_, ?_, ?_⟩
  · intro j hj
    simpa [goOn] using h.known j hj
  · intro j g' hg'
    rcases guest_cases hg hg' with ⟨rfl, rfl⟩ | ⟨hji, hj⟩
    · exact .inside hlast (hstep.inside hinside)
    · exact (h.stands j g' hj).same rfl rfl
  · exact hserved.past.goOn (h.not_given hlast) g rest s
  · intro heq
    have heq' : c.taken = c.given := heq
    rw [heq'] at hlast
    simp at hlast
  · intro j g' hg' hlast' r e hrest
    rcases guest_cases hg hg' with ⟨rfl, rfl⟩ | ⟨hji, hj⟩
    · exact hserved.inside j g hg hlast r e (hstep.endsAmid ho hrest)
    · have hsame : c.given ++ [j] = c.given ++ [i] := hlast'.symm.trans hlast
      exact absurd (by simpa using hsame) hji

theorem take (ho : Routine.Interference others) (h : Serialized others s₀ c) {i : Nat} {g : Guest σ}
    (hg : c.guests[i]? = some g) {rest : Routine σ g.Result} (hwaits : g.rest = .acquire rest)
    (hfree : c.held = false) : Serialized others s₀
      { c.goOn i g rest c.state with held := true, taken := c.taken ++ [i] } := by
  have heq := h.free hfree
  obtain ⟨m, hserved⟩ := h.served
  -- whoever waits for the lock has not had it, and all of the call is still to come
  have hcall : i ∉ c.taken ∧ g.rest = g.whole ∧ rest.Inside := by
    cases h.stands i g hg with
    | waiting out call =>
        obtain ⟨p, hp, hwhole, hrest⟩ := call
        rw [hrest] at hwaits
        cases hwaits
        exact ⟨out, hrest.trans hwhole.symm, Routine.inside_of_lockless hp⟩
    | inside _ hinside =>
        rw [hwaits] at hinside
        exact hinside.elim
    | finished _ r hrest =>
        rw [hwaits] at hrest
        cases hrest
  obtain ⟨hout, hwhole, hinside⟩ := hcall
  refine ⟨?_, ?_, by simp, .inr ⟨i, by rw [heq]; rfl⟩, ?_, m, ?_, ?_, ?_⟩
  · intro j hj
    have hlt := (List.getElem?_eq_some_iff.1 hg).1
    rcases List.mem_append.1 hj with hj | hj
    · simpa [goOn] using h.known j hj
    · obtain rfl : j = i := by simpa using hj
      simpa [goOn] using hlt
  · exact List.nodup_append.2 ⟨h.nodup, by simp, by
      intro j hj k hk
      obtain rfl : k = i := by simpa using hk
      rintro rfl
      exact hout hj⟩
  · intro j g' hg'
    rcases guest_cases hg hg' with ⟨rfl, rfl⟩ | ⟨hji, hj⟩
    · refine .inside ?_ hinside
      show c.taken ++ [j] = c.given ++ [j]
      rw [heq]
    · cases h.stands j g' hj with
      | waiting out call =>
          refine .waiting ?_ call
          simp [out, hji]
      | inside last _ =>
          rw [heq] at last
          simp at last
      | finished given r rest => exact .finished given r rest
  · have hgiven : i ∉ c.given := fun hmem => hout (h.given_subset hmem)
    exact hserved.past.goOn hgiven g rest c.state
  · intro hsame
    have hsame' : c.taken ++ [i] = c.given := hsame
    rw [heq] at hsame'
    simp at hsame'
  · intro j g' hg' hlast r e hrest
    have hsame : c.taken ++ [i] = c.given ++ [j] := hlast
    rw [heq] at hsame
    obtain rfl : i = j := by simpa using hsame
    rcases guest_cases hg hg' with ⟨_, rfl⟩ | ⟨hji, _⟩
    · have hends : g.rest.EndsAmid others c.state r e := by
        rw [hwaits]
        exact hrest
      rw [hwhole] at hends
      exact hends.before ho (hserved.free heq)
    · exact absurd rfl hji

theorem give (ho : Routine.Interference others) (h : Serialized others s₀ c) {i : Nat} {g : Guest σ}
    (hg : c.guests[i]? = some g) {rest : Routine σ g.Result} (hgives : g.rest = .release rest) :
    Serialized others s₀
      { c.goOn i g rest c.state with held := false, given := c.given ++ [i] } := by
  have hcall : c.taken = c.given ++ [i] ∧ ∃ r, rest = .done r := by
    cases h.stands i g hg with
    | waiting _ call =>
        obtain ⟨p, _, _, hrest⟩ := call
        rw [hrest] at hgives
        cases hgives
    | inside last hinside =>
        rw [hgives] at hinside
        exact ⟨last, hinside⟩
    | finished _ r hrest =>
        rw [hgives] at hrest
        cases hrest
  obtain ⟨hlast, r, rfl⟩ := hcall
  obtain ⟨m, hserved⟩ := h.served
  have hwhole : g.whole.EndsAmid others m r c.state := by
    refine hserved.inside i g hg hlast r c.state ?_
    rw [hgives]
    exact ⟨rfl, ho.refl c.state⟩
  have hself : (c.goOn i g (.done r) c.state).guests[i]? = some (g.left (.done r)) :=
    List.getElem?_set_self (List.getElem?_eq_some_iff.1 hg).1
  refine ⟨?_, h.nodup, fun _ => hlast, .inl hlast, ?_, c.state, ?_, fun _ => ho.refl c.state, ?_⟩
  · intro j hj
    simpa [goOn] using h.known j hj
  · intro j g' hg'
    rcases guest_cases hg hg' with ⟨rfl, rfl⟩ | ⟨hji, hj⟩
    · exact .finished (by simp) r rfl
    · cases h.stands j g' hj with
      | waiting out call => exact .waiting out call
      | inside last _ =>
          have hsame : c.given ++ [j] = c.given ++ [i] := last.symm.trans hlast
          exact absurd (by simpa using hsame) hji
      | finished given r' rest' => exact .finished (List.mem_append_left [i] given) r' rest'
  · have hpast := hserved.past.goOn (h.not_given hlast) g (.done r) c.state
    exact hpast.concat ho hself rfl hwhole
  · intro j g' _ hsame
    have hsame' : c.taken = (c.given ++ [i]) ++ [j] := hsame
    rw [hlast] at hsame'
    simp at hsame'

theorem step {calls : Guest σ → Prop} (hcalls : ∀ g, calls g → g.Locked)
    (ho : Routine.Interference others) (h : Serialized others s₀ c)
    (hstep : Step calls others c c') : Serialized others s₀ c' := by
  cases hstep with
  | come call => exact h.come (hcalls _ call)
  | outside change => exact h.outside ho change
  | go guest step => exact h.go ho guest step
  | take guest waits free => exact h.take ho guest waits free
  | give guest gives => exact h.give ho guest gives

end Serialized

/-- Calls that do all that they do under the lock are served one after the other, whatever order
their steps come in. -/
theorem serialized_of_reach {calls : Guest σ → Prop} (hcalls : ∀ g, calls g → g.Locked)
    (ho : Routine.Interference others) {s₀ : σ} {c : Crowd σ}
    (h : Reach calls others { state := s₀ } c) : Serialized others s₀ c := by
  induction h with
  | refl => exact .fresh ho s₀
  | tail _ hstep ih => exact ih.step hcalls ho hstep

/-! ## Whose call it is -/

/-- A call has taken the lock and has not given it back. -/
def Holds (c : Crowd σ) (i : Nat) : Prop := i ∈ c.taken ∧ i ∉ c.given

namespace Serialized

variable {s₀ : σ} {c : Crowd σ}

theorem holds_iff (h : Serialized others s₀ c) {i : Nat} :
    c.Holds i ↔ c.taken = c.given ++ [i] := by
  constructor
  · rintro ⟨htaken, hgiven⟩
    rcases h.lock with heq | ⟨j, hj⟩
    · rw [heq] at htaken
      exact absurd htaken hgiven
    · rw [hj] at htaken ⊢
      rcases List.mem_append.1 htaken with hmem | hmem
      · exact absurd hmem hgiven
      · obtain rfl : i = j := by simpa using hmem
        rfl
  · intro hlast
    refine ⟨?_, h.not_given hlast⟩
    rw [hlast]
    simp

/-- There is never more than one call between taking the lock and giving it back. -/
theorem holds_unique (h : Serialized others s₀ c) {i j : Nat} (hi : c.Holds i) (hj : c.Holds j) :
    i = j := by
  have hsame := (h.holds_iff.1 hi).symm.trans (h.holds_iff.1 hj)
  simpa using hsame

theorem given_prefix (h : Serialized others s₀ c) : c.given <+: c.taken := by
  rcases h.lock with heq | ⟨i, hi⟩
  · exact ⟨[], (List.append_nil c.given).trans heq.symm⟩
  · exact ⟨[i], hi.symm⟩

/-- A call is over when it has given the lock back, and not before. -/
theorem over_iff (h : Serialized others s₀ c) {i : Nat} {g : Guest σ}
    (hg : c.guests[i]? = some g) : (∃ r, g.rest = .done r) ↔ i ∈ c.given := by
  cases h.stands i g hg with
  | waiting out call =>
      obtain ⟨p, _, _, hrest⟩ := call
      constructor
      · rintro ⟨r, hr⟩
        rw [hrest] at hr
        cases hr
      · intro hgiven
        exact absurd (h.given_subset hgiven) out
  | inside last hinside =>
      constructor
      · rintro ⟨r, hr⟩
        rw [hr] at hinside
        exact hinside.elim
      · intro hgiven
        exact absurd hgiven (h.not_given last)
  | finished given r rest => exact ⟨fun _ => given, fun _ => ⟨r, rest⟩⟩

/-- A call that has not taken the lock has done nothing. -/
theorem untouched (h : Serialized others s₀ c) {i : Nat} {g : Guest σ}
    (hg : c.guests[i]? = some g) (hout : i ∉ c.taken) : g.rest = g.whole := by
  cases h.stands i g hg with
  | waiting _ call =>
      obtain ⟨p, _, hwhole, hrest⟩ := call
      rw [hrest, hwhole]
  | inside last _ =>
      rw [last] at hout
      simp at hout
  | finished given _ _ => exact absurd (h.given_subset given) hout

/-- While nobody has the lock, all that has happened is what the calls do one after the other. -/
theorem inTurn (ho : Routine.Interference others) (h : Serialized others s₀ c)
    (hnone : ∀ i, ¬c.Holds i) : InTurn others c.guests c.taken s₀ c.state := by
  have heq : c.taken = c.given := by
    rcases h.lock with heq | ⟨i, hi⟩
    · exact heq
    · exact absurd (h.holds_iff.2 hi) (hnone i)
  obtain ⟨s, hserved⟩ := h.served
  rw [heq]
  exact hserved.past.after ho (hserved.free heq)

/-- When all calls are over, each of them has had the lock once. -/
theorem taken_perm (h : Serialized others s₀ c) (hover : ∀ g ∈ c.guests, ∃ r, g.rest = .done r) :
    c.taken.Perm (List.range c.guests.length) := by
  refine (List.perm_ext_iff_of_nodup h.nodup List.nodup_range).2 fun i => ?_
  rw [List.mem_range]
  constructor
  · intro hi
    exact h.known i hi
  · intro hi
    have hg : c.guests[i]? = some c.guests[i] := List.getElem?_eq_getElem hi
    have hgiven := (h.over_iff hg).1 (hover _ (List.getElem_mem hi))
    exact h.given_subset hgiven

/-- When all calls are over, nobody has the lock. -/
theorem not_holds (h : Serialized others s₀ c) (hover : ∀ g ∈ c.guests, ∃ r, g.rest = .done r)
    (i : Nat) : ¬c.Holds i := by
  rintro ⟨htaken, hgiven⟩
  have hlt := h.known i htaken
  have hg : c.guests[i]? = some c.guests[i] := List.getElem?_eq_getElem hlt
  exact hgiven ((h.over_iff hg).1 (hover _ (List.getElem_mem hlt)))

end Serialized

/-! ## Courses that can be followed -/

/-- One call goes one step on, if it can. The clock shows nothing but zero. -/
def turn (c : Crowd σ) (i : Nat) : Crowd σ :=
  match c.guests[i]? with
  | none => c
  | some g =>
    match g.rest with
    | .done _ => c
    | .act change next => c.goOn i g (next c.state) (change c.state)
    | .clock next => c.goOn i g (next 0) c.state
    | .sleep _ next | .launch _ next | .cancel _ next | .join _ next => c.goOn i g next c.state
    | .acquire next =>
      if c.held then c
      else { c.goOn i g next c.state with held := true, taken := c.taken ++ [i] }
    | .release next => { c.goOn i g next c.state with held := false, given := c.given ++ [i] }

variable {calls : Guest σ → Prop}

theorem reach_turn (c : Crowd σ) (i : Nat) : Reach calls others c (c.turn i) := by
  unfold turn
  cases hg : c.guests[i]? with
  | none => exact .refl
  | some g =>
      simp only
      cases hrest : g.rest with
      | done r => exact .refl
      | act change next =>
          exact .single (.go hg (by rw [hrest]; exact .act change next c.state))
      | clock next => exact .single (.go hg (by rw [hrest]; exact .clock next 0 c.state))
      | sleep d next => exact .single (.go hg (by rw [hrest]; exact .sleep d next c.state))
      | launch task next => exact .single (.go hg (by rw [hrest]; exact .launch task next c.state))
      | cancel task next => exact .single (.go hg (by rw [hrest]; exact .cancel task next c.state))
      | join task next => exact .single (.go hg (by rw [hrest]; exact .join task next c.state))
      | acquire next =>
          simp only
          cases hheld : c.held with
          | true => exact .refl
          | false => exact .single (.take hg hrest hheld)
      | release next => exact .single (.give hg hrest)

/-- One step after the other, by whoever is named. -/
theorem reach_turns (c : Crowd σ) (is : List Nat) : Reach calls others c (is.foldl turn c) := by
  induction is generalizing c with
  | nil => exact .refl
  | cons i is ih => exact (reach_turn c i).trans (ih (c.turn i))

end Crowd

end HomeEnergy
