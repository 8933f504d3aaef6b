import HomeEnergy.Proofs.Routine.Shown

/-!
# Main routines that come to an end

However the parts of a program are interleaved, a main routine can come to its end in two cases. It
may sleep and use the lock as long as no task is going on (`Schedule.Solitary`), provided that it
gives the lock back before it takes it again (`Routine.Bracketed`). And it comes to its end among
any tasks if it waits for nothing (`Routine.Waitless`).

## Main results

* `Schedule.Solitary.drifts` — however it goes on, a schedule in which nothing else goes on stays
  so.
* `Schedule.Solitary.comes_to_end`, `Schedule.comes_to_end_of_waitless` — the two cases.
-/

namespace HomeEnergy

variable {σ τ α β : Type} {others : σ → σ → Prop}

/-! ## Routines that give the lock back -/

namespace Routine

/-- A routine that has nothing to do with tasks, takes the lock only when it does not have it, and
has given it back when it ends. It is told whether the routine has the lock. -/
def Bracketed : Routine σ α → Bool → Prop
  | done _, inside => inside = false
  | act _ next, inside => ∀ s, (next s).Bracketed inside
  | clock next, inside => ∀ t, (next t).Bracketed inside
  | sleep _ next, inside => next.Bracketed inside
  | acquire next, inside => inside = false ∧ next.Bracketed true
  | release next, inside => inside = true ∧ next.Bracketed false
  | launch _ _, _ => False
  | cancel _ _, _ => False
  | join _ _, _ => False

theorem bracketed_bind {p : Routine σ α} {f : α → Routine σ β} {inside : Bool}
    (hp : p.Bracketed inside) (hf : ∀ a, (f a).Bracketed false) : (p.bind f).Bracketed inside := by
  induction p generalizing inside with
  | done a =>
      obtain rfl := hp
      exact hf a
  | act change next ih => exact fun s => ih s (hp s)
  | clock next ih => exact fun t => ih t (hp t)
  | sleep _ _ ih => exact ih hp
  | acquire _ ih => exact ⟨hp.1, ih hp.2⟩
  | release _ ih => exact ⟨hp.1, ih hp.2⟩
  | launch _ _ _ => exact hp.elim
  | cancel _ _ _ => exact hp.elim
  | join _ _ _ => exact hp.elim

theorem bracketed_within {part : Part σ τ} {p : Routine τ α} {inside : Bool}
    (hp : p.Bracketed inside) : (p.within part).Bracketed inside := by
  induction p generalizing inside with
  | done a => exact hp
  | act change next ih => exact fun s => ih _ (hp _)
  | clock next ih => exact fun t => ih t (hp t)
  | sleep _ _ ih => exact ih hp
  | acquire _ ih => exact ⟨hp.1, ih hp.2⟩
  | release _ ih => exact ⟨hp.1, ih hp.2⟩
  | launch _ _ _ => exact hp.elim
  | cancel _ _ _ => exact hp.elim
  | join _ _ _ => exact hp.elim

theorem taskless_of_bracketed {p : Routine σ α} {inside : Bool} (hp : p.Bracketed inside) :
    p.Taskless := by
  induction p generalizing inside with
  | done a => exact trivial
  | act change next ih => exact fun s => ih s (hp s)
  | clock next ih => exact fun t => ih t (hp t)
  | sleep _ _ ih => exact ih hp
  | acquire _ ih => exact ih hp.2
  | release _ ih => exact ih hp.2
  | launch _ _ _ => exact hp.elim
  | cancel _ _ _ => exact hp.elim
  | join _ _ _ => exact hp.elim

/-- A routine that leaves the lock alone has it behind its end if it has it before. -/
theorem bracketed_bind_of_direct {p : Routine σ α} {f : α → Routine σ β} {inside : Bool}
    (hp : p.Direct) (hf : ∀ a, (f a).Bracketed inside) : (p.bind f).Bracketed inside := by
  induction p with
  | done a => exact hf a
  | act change next ih => exact fun s => ih s (hp.2 s)
  | clock next ih => exact fun t => ih t (hp.2 t)
  | sleep _ _ ih => exact ih hp.2
  | acquire _ _ => exact hp.1.elim
  | release _ _ => exact hp.1.elim
  | launch _ _ _ => exact hp.1.elim
  | cancel _ _ _ => exact hp.1.elim
  | join _ _ _ => exact hp.1.elim

/-- The lock is given back. -/
def Law.bracketed : Law σ where
  holds p := p.Bracketed false
  done _ := rfl
  bind := bracketed_bind
  look _ := rfl
  now _ := rfl
  pause _ := rfl

theorem Law.bracketed_change (f : σ → σ) : bracketed.holds (change f) := fun _ => rfl

theorem Law.locks_bracketed : (direct (σ := σ)).Locks bracketed :=
  fun _ _ hp => ⟨rfl, bracketed_bind_of_direct hp fun _ => ⟨rfl, rfl⟩⟩

/-- A routine that waits for nothing. -/
abbrev Waitless (p : Routine σ α) : Prop := p.Uses RoutineStep.Waitless

end Routine

/-- A routine that has come to a phase can go on by itself, and has the lock if it is so told. -/
def Phase.Bracketed : Phase σ α → Bool → Prop
  | .ready p, inside | .sleeping _ p, inside => p.Bracketed inside
  | .queued _, _ | .joining _ _, _ => False
  | .ended _, inside => inside = false

/-- A routine that has come to a phase can go on and waits for nothing. -/
def Phase.Waitless : Phase σ α → Prop
  | .ready p => p.Waitless
  | .ended _ => True
  | .sleeping _ _ | .queued _ | .joining _ _ => False

namespace Schedule

variable {a b : Schedule σ α}

/-! ## Alone -/

/-- No task is going on, and the main routine has the lock if anyone has. -/
structure Solitary (s : Schedule σ α) : Prop where
  gone : ∀ i, s.isOver i = true
  queue : s.queue = []
  main : s.main.Bracketed s.held

theorem unlock_of_queue {s : Schedule σ α} (h : s.queue = []) :
    s.unlock = { s with held := false } := by
  simp only [unlock, h]

/-- What is left of a routine alone. -/
theorem runFor_bracketed (me : Option Nat) (limit : Nat) {s : Schedule σ α} {p : Routine σ β}
    (hqueue : s.queue = []) (hp : p.Bracketed s.held) :
    (runFor me limit s p).1.queue = [] ∧
      (runFor me limit s p).2.Bracketed (runFor me limit s p).1.held := by
  induction limit generalizing s p with
  | zero => exact ⟨hqueue, hp⟩
  | succ n ih =>
      cases p with
      | done b => exact ⟨hqueue, hp⟩
      | act change next => exact ih (s := { s with state := change s.state }) hqueue (hp s.state)
      | clock next => exact ih hqueue (hp s.now)
      | sleep d next =>
          simp only [runFor]
          split
          · exact ih hqueue hp
          · exact ⟨hqueue, hp⟩
      | acquire next =>
          obtain ⟨hfree, hnext⟩ := hp
          simp only [runFor, hfree]
          exact ih (s := { s with held := true }) hqueue hnext
      | release next =>
          simp only [runFor, unlock_of_queue hqueue]
          exact ih (s := { s with held := false }) hqueue hp.2
      | launch _ _ => exact hp.elim
      | cancel _ _ => exact hp.elim
      | join _ _ => exact hp.elim

theorem bracketed_awake {phase : Phase σ α} {inside : Bool} (now : Nat)
    (h : phase.Bracketed inside) : (phase.awake now).Bracketed inside := by
  cases phase with
  | sleeping wake p =>
      simp only [Phase.awake]
      split
      · exact h
      · exact h
  | _ => exact h

/-- Nothing else comes to go on. -/
theorem Solitary.stirs (h : a.Solitary) (hstep : a.Stirs others b) : b.Solitary := by
  obtain ⟨hover, hqueue, hmain⟩ := h
  cases hstep.calm hover with
  | main limit p here =>
      rw [here] at hmain
      have hrun : a.EachTask (Task.Settles Eq) (runFor none limit a p).1 :=
        runFor_settles none limit a (Routine.taskless_of_bracketed hmain)
      obtain ⟨hqueue', hrest⟩ := runFor_bracketed none limit hqueue hmain
      exact ⟨fun i => hrun.isOver (hover i), hqueue', hrest⟩
  | joined task p here =>
      rw [here] at hmain
      exact hmain.elim
  | clock n =>
      exact ⟨fun i => isOver_advance n (hover i), hqueue, bracketed_awake _ hmain⟩
  | outside x change => exact ⟨hover, hqueue, hmain⟩

theorem Solitary.drifts (h : a.Solitary) (hdrift : a.Drifts others b) : b.Solitary := by
  induction hdrift with
  | refl => exact h
  | tail _ hlast ih => exact ih.stirs hlast

/-- A single step of the main routine, and then the others. -/
theorem comes_to_end_of_step {p : Routine σ α} (here : a.main = .ready p)
    (h : ∃ c r, Drifts others { (runFor none 1 a p).1 with main := (runFor none 1 a p).2 } c ∧
      c.main = .ended r) : ∃ c r, a.Drifts others c ∧ c.main = .ended r := by
  obtain ⟨c, r, hdrift, hend⟩ := h
  exact ⟨c, r, .head (.main 1 p here) hdrift, hend⟩

/-- A main routine that gives the lock back comes to an end by itself. -/
theorem comes_to_end_of_bracketed {p : Routine σ α} (here : a.main = .ready p)
    (hqueue : a.queue = []) (hp : p.Bracketed a.held) :
    ∃ c r, a.Drifts others c ∧ c.main = .ended r := by
  induction p generalizing a with
  | done r => exact comes_to_end_of_step here ⟨_, r, .refl, rfl⟩
  | act change next ih =>
      exact comes_to_end_of_step here (ih _ rfl hqueue (hp _))
  | clock next ih => exact comes_to_end_of_step here (ih _ rfl hqueue (hp _))
  | sleep d next ih =>
      apply comes_to_end_of_step here
      by_cases hwake : Ticker.fireAt (a.now + d.nanos) ≤ a.now
      · simp only [runFor, if_pos hwake]
        exact ih (a := { a with main := .ready next }) rfl hqueue hp
      · -- The clock moves to the instant at which it wakes.
        simp only [runFor, if_neg hwake]
        obtain ⟨c, r, hdrift, hend⟩ := ih
          (a := advance { a with main := .sleeping (Ticker.fireAt (a.now + d.nanos)) next }
            (Ticker.fireAt (a.now + d.nanos)))
          (if_pos (Nat.le_max_right _ _)) hqueue hp
        exact ⟨c, r, .head (.clock _) hdrift, hend⟩
  | acquire next ih =>
      obtain ⟨hfree, hnext⟩ := hp
      apply comes_to_end_of_step here
      simp only [runFor, hfree]
      exact ih (a := { a with held := true, main := .ready next }) rfl hqueue hnext
  | release next ih =>
      apply comes_to_end_of_step here
      simp only [runFor, unlock_of_queue hqueue]
      exact ih (a := { a with held := false, main := .ready next }) rfl hqueue hp.2
  | launch _ _ _ => exact hp.elim
  | cancel _ _ _ => exact hp.elim
  | join _ _ _ => exact hp.elim

theorem Solitary.comes_to_end (h : a.Solitary) : ∃ c r, a.Drifts others c ∧ c.main = .ended r := by
  obtain ⟨-, hqueue, hmain⟩ := h
  cases hp : a.main with
  | ready p =>
      rw [hp] at hmain
      exact comes_to_end_of_bracketed hp hqueue hmain
  | sleeping wake p =>
      rw [hp] at hmain
      have hwoken : (a.advance wake).main = .ready p := by
        show a.main.awake _ = _
        rw [hp]
        exact if_pos (Nat.le_max_right _ _)
      obtain ⟨c, r, hdrift, hend⟩ := comes_to_end_of_bracketed hwoken hqueue hmain
      exact ⟨c, r, .head (.clock wake) hdrift, hend⟩
  | queued p =>
      rw [hp] at hmain
      exact hmain.elim
  | joining task p =>
      rw [hp] at hmain
      exact hmain.elim
  | ended r => exact ⟨a, r, .refl, hp⟩

/-! ## Among tasks -/

theorem runFor_waitless (me : Option Nat) (limit : Nat) {s : Schedule σ α} {p : Routine σ β}
    (hp : p.Waitless) : (runFor me limit s p).2.Waitless := by
  induction limit generalizing s p with
  | zero => exact hp
  | succ n ih =>
      cases p with
      | done b => exact trivial
      | act change next => exact ih (hp.2 s.state)
      | clock next => exact ih (hp.2 s.now)
      | launch task next => exact ih (p := next) hp.2
      | cancel task next => exact ih (p := next) hp.2
      | sleep _ _ => exact hp.1.elim
      | acquire _ => exact hp.1.elim
      | release _ => exact hp.1.elim
      | join _ _ => exact hp.1.elim

theorem perform_waitless (s : Schedule σ α) (me : Option Nat) {p : Routine σ β}
    (hp : p.Waitless) : ∃ r, (s.perform me p).2 = .ended r := by
  induction p generalizing s with
  | done b => exact ⟨b, rfl⟩
  | act change next ih => exact ih s.state { s with state := change s.state } (hp.2 _)
  | clock next ih => exact ih s.now s (hp.2 _)
  | launch task next ih => exact ih (s.onTask task ({ · with progress := .beginning })) hp.2
  | cancel task next ih => exact ih (s.onTask task ({ · with cancelled := true })) hp.2
  | sleep _ _ _ => exact hp.1.elim
  | acquire _ _ => exact hp.1.elim
  | release _ _ => exact hp.1.elim
  | join _ _ _ => exact hp.1.elim

variable {R : σ → σ → Prop}

theorem Nudged.waitless {phase phase' : Phase σ α} (h : Nudged phase phase')
    (hphase : phase.Waitless) : phase'.Waitless := by
  cases h with
  | same h =>
      rw [h]
      exact hphase
  | granted h =>
      rw [h]
      cases phase with
      | queued p => exact hphase.elim
      | _ => exact hphase
  | woken now h =>
      rw [h]
      cases phase with
      | sleeping wake p => exact hphase.elim
      | _ => exact hphase

theorem Kind.waitless (h : a.Kind R b) (hmain : a.main.Waitless) : b.main.Waitless := by
  cases h with
  | main limit p here after =>
      subst after
      rw [here] at hmain
      exact runFor_waitless none limit hmain
  | joined task p here _ _ =>
      rw [here] at hmain
      exact hmain.elim
  | around _ _ main => exact main.waitless hmain

/-- A main routine that waits for nothing comes to an end, whenever it is its turn. -/
theorem comes_to_end_of_waitless (hmain : a.main.Waitless) :
    ∃ c r, a.Drifts others c ∧ c.main = .ended r := by
  cases hp : a.main with
  | ready p =>
      rw [hp] at hmain
      obtain ⟨r, hr⟩ := perform_waitless a none hmain
      have hstep : a.step? = some { (a.perform none p).1 with main := (a.perform none p).2 } :=
        step_of_ready hp
      exact ⟨_, r, .single (stirs_of_step hstep), hr⟩
  | ended r => exact ⟨a, r, .refl, hp⟩
  | sleeping _ _ | queued _ | joining _ _ =>
      rw [hp] at hmain
      exact hmain.elim

theorem Drifts.waitless (ho : Routine.Interference R) (hothers : ∀ s t, others s t → R s t)
    (hquiet : a.Quiet R) (hmain : a.main.Waitless) (h : a.Drifts others b) : b.main.Waitless := by
  have hboth : a.EachTask (Task.Follows R) b ∧ b.main.Waitless := by
    induction h with
    | refl => exact ⟨.of_tasks_eq Task.interference_follows rfl, hmain⟩
    | tail _ hlast ih =>
        obtain ⟨hfollows, hbefore⟩ := ih
        have hkind := hlast.kind ho hothers (hfollows.quiet hquiet)
        exact ⟨hfollows.trans Task.interference_follows hkind.follows, hkind.waitless hbefore⟩
  exact hboth.2

end Schedule

end HomeEnergy
