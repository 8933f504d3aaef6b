import HomeEnergy.Proofs.Routine.Amid
import Mathlib.Data.List.Forall2

/-!
# What a routine guarantees amid others

A routine that launches tasks and waits for them works on a scene: a state, and all tasks that have
been launched. Between two of its steps others may change the scene, and tasks may end, normally or
by a panic. `Routine.Assured` says of a routine in a scene that, as long as the others do nothing
but what is relied on, each of its steps does what is guaranteed, and that a statement about the
result and the scene holds at its end and from then on.

## Main results

* `Routine.assured_bind` — routines in sequence.
* `Routine.assured_within` — a routine on a part that has nothing to do with tasks.
* `Routine.Goes.assured` — what is assured is kept by every step.
* `Routine.finish` — the course of a routine that nothing interferes with, and for which tasks end.
-/

namespace HomeEnergy

/-! ## Scenes -/

/-- How a task has ended. -/
inductive Ending where
  | normal
  | panic
deriving DecidableEq, Repr

/-- A task that has been launched, under its number. -/
structure Spawned where
  task : Nat
  /-- How it has ended, if it has. -/
  ended : Option Ending := none
deriving DecidableEq, Repr

/-- What may become of a task: it ends, for good. -/
structure Spawned.Fades (x y : Spawned) : Prop where
  task : y.task = x.task
  same : x.ended.isSome → y = x

/-- What may become of tasks. -/
abbrev Fading : List Spawned → List Spawned → Prop := List.Forall₂ Spawned.Fades

theorem Fading.refl (xs : List Spawned) : Fading xs xs :=
  List.forall₂_same.2 fun _ _ => ⟨rfl, fun _ => rfl⟩

theorem Fading.trans {xs ys zs : List Spawned} (h : Fading xs ys) (h' : Fading ys zs) :
    Fading xs zs := by
  induction h generalizing zs with
  | nil => exact h'
  | cons hxy _ ih =>
      cases h' with
      | cons hyz hrest =>
          refine .cons ⟨hyz.task.trans hxy.task, fun hx => ?_⟩ (ih hrest)
          have hy := hxy.same hx
          rw [hyz.same (by rw [hy]; exact hx), hy]

/-- What becomes of no tasks, and of a single one. -/
theorem Fading.of_nil {ys : List Spawned} (h : Fading [] ys) : ys = [] :=
  List.forall₂_nil_left_iff.1 h

theorem Fading.of_single {i : Nat} {e : Option Ending} {ys : List Spawned}
    (h : Fading [⟨i, e⟩] ys) : ∃ e', ys = [⟨i, e'⟩] := by
  cases h with
  | @cons _ y _ _ hy hrest =>
      cases hrest
      obtain ⟨j, e'⟩ := y
      obtain rfl := hy.task
      exact ⟨e', rfl⟩

/-- Tasks that have ended have ended for good. -/
theorem Fading.ended {xs ys : List Spawned} (h : Fading xs ys) (chosen : Nat → Prop)
    (hended : ∀ x ∈ xs, chosen x.task → x.ended.isSome) :
    ∀ y ∈ ys, chosen y.task → y.ended.isSome := by
  induction h with
  | nil => exact hended
  | @cons x y _ _ hxy _ ih =>
      intro z hz hchosen
      rcases List.mem_cons.1 hz with rfl | hz
      · rw [hxy.task] at hchosen
        have hx := hended x (by simp) hchosen
        rw [hxy.same hx]
        exact hx
      · exact ih (fun w hw => hended w (by simp [hw])) z hz hchosen

theorem Fading.all_ended {xs ys : List Spawned} (h : Fading xs ys)
    (hended : ∀ x ∈ xs, x.ended.isSome) : ∀ y ∈ ys, y.ended.isSome :=
  fun y hy => h.ended (fun _ => True) (fun x hx _ => hended x hx) y hy trivial

/-- Tasks keep their numbers and their order. -/
theorem Fading.tasks {xs ys : List Spawned} (h : Fading xs ys) :
    ys.map Spawned.task = xs.map Spawned.task := by
  induction h with
  | nil => rfl
  | cons hxy _ ih => simp [hxy.task, ih]

/-- A state, and the tasks that have been launched. -/
structure Scene (σ : Type) where
  state : σ
  /-- In the order of their launches. -/
  spawned : List Spawned := []

namespace Scene

variable {σ : Type}

/-- A task has been launched. -/
def launch (i : Nat) (s : Scene σ) : Scene σ := { s with spawned := s.spawned ++ [⟨i, none⟩] }

/-- The state has been changed. -/
def change (f : σ → σ) (s : Scene σ) : Scene σ := { s with state := f s.state }

/-- All tasks have ended. -/
def endAll (e : Ending) (s : Scene σ) : Scene σ :=
  { s with spawned := s.spawned.map fun x => { x with ended := x.ended.or (some e) } }

/-- No task with a number is still going on. -/
def IsOver (s : Scene σ) (i : Nat) : Prop := ∀ x ∈ s.spawned, x.task = i → x.ended.isSome

theorem IsOver.after {s t : Scene σ} {i : Nat} (h : s.IsOver i)
    (hf : Fading s.spawned t.spawned) : t.IsOver i := hf.ended (· = i) h

theorem fading_endAll (e : Ending) (s : Scene σ) : Fading s.spawned (s.endAll e).spawned := by
  rw [Fading, endAll, List.forall₂_map_right_iff]
  refine List.forall₂_same.2 fun x _ => ⟨rfl, fun hx => ?_⟩
  obtain ⟨a, ha⟩ := Option.isSome_iff_exists.1 hx
  rw [ha, Option.some_or, ← ha]

theorem isOver_endAll (e : Ending) (s : Scene σ) (i : Nat) : (s.endAll e).IsOver i := by
  intro x hx _
  obtain ⟨y, _, rfl⟩ := List.mem_map.1 hx
  simp

/-- What others may do to a scene, if this is what they may do to its state. -/
structure Amid (others : σ → σ → Prop) (s t : Scene σ) : Prop where
  state : others s.state t.state
  spawned : Fading s.spawned t.spawned

theorem interference_amid {others : σ → σ → Prop} (ho : Routine.Interference others) :
    Routine.Interference (Amid others) where
  refl s := ⟨ho.refl s.state, .refl s.spawned⟩
  trans h h' := ⟨ho.trans h.state h'.state, h.spawned.trans h'.spawned⟩

end Scene

namespace Routine

variable {σ τ α β : Type}

/-! ## Steps -/

/-- A routine goes one step on. It takes the end of a task to go on from waiting for it; other waits
may be over at any time, and the clock may show anything. -/
inductive Goes : Routine σ α → Scene σ → Routine σ α → Scene σ → Prop where
  | act (change : σ → σ) (next : σ → Routine σ α) (s : Scene σ) :
      Goes (.act change next) s (next s.state) (s.change change)
  | clock (next : Nat → Routine σ α) (t : Nat) (s : Scene σ) : Goes (.clock next) s (next t) s
  | sleep (d : Span) (next : Routine σ α) (s : Scene σ) : Goes (.sleep d next) s next s
  | acquire (next : Routine σ α) (s : Scene σ) : Goes (.acquire next) s next s
  | release (next : Routine σ α) (s : Scene σ) : Goes (.release next) s next s
  | launch (i : Nat) (next : Routine σ α) (s : Scene σ) :
      Goes (.launch i next) s next (s.launch i)
  | cancel (i : Nat) (next : Routine σ α) (s : Scene σ) : Goes (.cancel i next) s next s
  | join (i : Nat) (next : Routine σ α) (s : Scene σ) (ended : s.IsOver i) :
      Goes (.join i next) s next s

/-- A routine that neither launches nor stops tasks, and waits for none. -/
def Taskless : Routine σ α → Prop
  | done _ => True
  | act _ next => ∀ s, (next s).Taskless
  | clock next => ∀ t, (next t).Taskless
  | sleep _ next => next.Taskless
  | acquire next => next.Taskless
  | release next => next.Taskless
  | launch _ _ => False
  | cancel _ _ => False
  | join _ _ => False

/-! ## What is assured -/

/-- If others do what is relied on, each step of a routine does what is guaranteed, and when it has
ended a statement about its result holds, from then on. -/
def Assured (rely step : Scene σ → Scene σ → Prop) (post : α → Scene σ → Prop) :
    Routine σ α → Scene σ → Prop
  | done a, s => ∀ t, rely s t → post a t
  | act change next, s => ∀ t, rely s t →
      step t (t.change change) ∧ (next t.state).Assured rely step post (t.change change)
  | clock next, s => ∀ n, (next n).Assured rely step post s
  | sleep _ next, s => next.Assured rely step post s
  | acquire next, s => next.Assured rely step post s
  | release next, s => next.Assured rely step post s
  | launch i next, s => ∀ t, rely s t →
      step t (t.launch i) ∧ next.Assured rely step post (t.launch i)
  | cancel _ next, s => next.Assured rely step post s
  | join i next, s => ∀ t, rely s t → t.IsOver i → next.Assured rely step post t

variable {rely step : Scene σ → Scene σ → Prop} {post : α → Scene σ → Prop} {s t : Scene σ}

/-- What is assured does not depend on what others do in the meantime. -/
theorem Assured.after (hr : Interference rely) {p : Routine σ α} (h : rely s t)
    (hp : p.Assured rely step post s) : p.Assured rely step post t := by
  induction p generalizing s t with
  | done a => exact fun u hu => hp u (hr.trans h hu)
  | act change next _ => exact fun u hu => hp u (hr.trans h hu)
  | clock next ih => exact fun n => ih n h (hp n)
  | sleep _ _ ih => exact ih h hp
  | acquire _ ih => exact ih h hp
  | release _ ih => exact ih h hp
  | launch _ _ _ => exact fun u hu => hp u (hr.trans h hu)
  | cancel _ _ ih => exact ih h hp
  | join _ _ _ => exact fun u hu => hp u (hr.trans h hu)

/-- A step does what is guaranteed or leaves the scene alone, and leaves assured what is. -/
theorem Goes.assured (hr : Interference rely) {p q : Routine σ α} (h : p.Goes s q t)
    (hp : p.Assured rely step post s) :
    q.Assured rely step post t ∧ (t = s ∨ step s t) := by
  cases h with
  | act change next _ =>
      obtain ⟨hstep, hnext⟩ := hp s (hr.refl s)
      exact ⟨hnext, .inr hstep⟩
  | clock next n _ => exact ⟨hp n, .inl rfl⟩
  | sleep _ _ _ => exact ⟨hp, .inl rfl⟩
  | acquire _ _ => exact ⟨hp, .inl rfl⟩
  | release _ _ => exact ⟨hp, .inl rfl⟩
  | launch i next _ =>
      obtain ⟨hstep, hnext⟩ := hp s (hr.refl s)
      exact ⟨hnext, .inr hstep⟩
  | cancel _ _ _ => exact ⟨hp, .inl rfl⟩
  | join i next _ hover => exact ⟨hp s (hr.refl s) hover, .inl rfl⟩

/-- What is assured to hold at the end may be anything that follows from it. -/
theorem Assured.imp {post' : α → Scene σ → Prop} {p : Routine σ α}
    (hp : p.Assured rely step post s) (h : ∀ a t, post a t → post' a t) :
    p.Assured rely step post' s := by
  induction p generalizing s with
  | done a => exact fun t ht => h a t (hp t ht)
  | act change next ih =>
      intro t ht
      obtain ⟨hstep, hnext⟩ := hp t ht
      exact ⟨hstep, ih _ hnext⟩
  | clock next ih => exact fun n => ih n (hp n)
  | sleep _ _ ih => exact ih hp
  | acquire _ ih => exact ih hp
  | release _ ih => exact ih hp
  | launch _ _ ih =>
      intro t ht
      obtain ⟨hstep, hnext⟩ := hp t ht
      exact ⟨hstep, ih hnext⟩
  | cancel _ _ ih => exact ih hp
  | join _ _ ih => exact fun t ht hover => ih (hp t ht hover)

/-- The second routine takes over what the first one assures. -/
theorem assured_bind (hr : Interference rely) {p : Routine σ α} {f : α → Routine σ β}
    {post : β → Scene σ → Prop}
    (hp : p.Assured rely step (fun a t => (f a).Assured rely step post t) s) :
    (p.bind f).Assured rely step post s := by
  induction p generalizing s with
  | done a => exact hp s (hr.refl s)
  | act change next ih =>
      intro t ht
      obtain ⟨hstep, hnext⟩ := hp t ht
      exact ⟨hstep, ih _ hnext⟩
  | clock next ih => exact fun n => ih n (hp n)
  | sleep _ _ ih => exact ih hp
  | acquire _ ih => exact ih hp
  | release _ ih => exact ih hp
  | launch _ _ ih =>
      intro t ht
      obtain ⟨hstep, hnext⟩ := hp t ht
      exact ⟨hstep, ih hnext⟩
  | cancel _ _ ih => exact ih hp
  | join _ _ ih => exact fun t ht hover => ih (hp t ht hover)

theorem assured_do (hr : Interference rely) {p : Routine σ α} {f : α → Routine σ β}
    {post : β → Scene σ → Prop}
    (hp : p.Assured rely step (fun a t => (f a).Assured rely step post t) s) :
    (p >>= f).Assured rely step post s := assured_bind hr hp

/-- Nothing happens at a look at the state. -/
theorem assured_look (hstep : ∀ t, step t t) {post : σ → Scene σ → Prop}
    (h : ∀ t, rely s t → ∀ u, rely t u → post t.state u) : look.Assured rely step post s :=
  fun t ht => ⟨hstep t, fun u hu => h t ht u hu⟩

theorem assured_change {f : σ → σ} {post : Unit → Scene σ → Prop}
    (h : ∀ t, rely s t → step t (t.change f) ∧ ∀ u, rely (t.change f) u → post () u) :
    (change f).Assured rely step post s :=
  h

/-- A routine on a part does nothing that others might not do as well. -/
theorem assured_within (hr : Interference rely) {part : Part σ τ}
    (hpart : ∀ f t, rely t (t.change (part.modify f)) ∧ step t (t.change (part.modify f)))
    {p : Routine τ α} (hp : p.Taskless) (h : ∀ a t, rely s t → post a t) :
    (p.within part).Assured rely step post s := by
  induction p generalizing s with
  | done a => exact h a
  | act change next ih =>
      intro t ht
      obtain ⟨hchange, hstep⟩ := hpart change t
      refine ⟨hstep, ih _ (hp _) fun a u hu => ?_⟩
      exact h a u (hr.trans (hr.trans ht hchange) hu)
  | clock next ih => exact fun n => ih n (hp n) h
  | sleep _ _ ih => exact ih hp h
  | acquire _ ih => exact ih hp h
  | release _ ih => exact ih hp h
  | launch _ _ _ => exact hp.elim
  | cancel _ _ _ => exact hp.elim
  | join _ _ _ => exact hp.elim

/-! ## Undisturbed courses -/

/-- The course of a routine that nothing interferes with: its result and the scene at its end. All
tasks end as soon as it waits for one. -/
def finish (e : Ending) : Routine σ α → Scene σ → α × Scene σ
  | done a, s => (a, s)
  | act change next, s => (next s.state).finish e (s.change change)
  | clock next, s => (next 0).finish e s
  | sleep _ next, s => next.finish e s
  | acquire next, s => next.finish e s
  | release next, s => next.finish e s
  | launch i next, s => next.finish e (s.launch i)
  | cancel _ next, s => next.finish e s
  | join _ next, s => next.finish e (s.endAll e)

end Routine

end HomeEnergy
