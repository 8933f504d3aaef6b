import HomeEnergy.Proofs.Routine.Laws
import HomeEnergy.Proofs.Routine.Turns
import Mathlib.Data.Option.Basic
import Mathlib.Logic.Relation

/-!
# Open schedules

`Schedule.step?` is one way in which a schedule goes on. What is to hold however the parts of a
program are interleaved is shown for all ways (`Schedule.Stirs`): whoever can go on does so, in any
order, and may be interrupted between any two of its steps (`Schedule.runFor`); a task may end by a
panic, the clock moves by any amount and at any time, and others change the state from outside.

What the rounds of tasks change is of one kind if each change in them is (`Task.Quiet`). Around the
main routine the tasks settle: what has ended does not begin again by itself.

## Main results

* `Schedule.exists_runFor` — a routine that is interrupted late enough is not interrupted.
* `Schedule.stirs_of_step` — the steps of a schedule are among the ways in which it goes on.
* `Schedule.Stirs.kind` — the main routine goes on, or the tasks settle around it.
-/

namespace HomeEnergy

variable {σ τ α β : Type}

/-- A routine that has nothing to do with tasks, and each change of which is of one kind. -/
structure Routine.Quiet (R : σ → σ → Prop) (p : Routine σ α) : Prop where
  taskless : p.Taskless
  keeps : p.Keeps R

/-- Routines are quiet. -/
def Routine.Law.quiet {R : σ → σ → Prop} (hrefl : ∀ s, R s s) : Routine.Law σ where
  holds p := p.Quiet R
  done _ := ⟨trivial, trivial⟩
  bind hp hf :=
    ⟨Routine.taskless_bind hp.taskless fun a => (hf a).taskless,
      Routine.keeps_bind hp.keeps fun a => (hf a).keeps⟩
  look := ⟨fun _ => trivial, Routine.keeps_look hrefl⟩
  now := ⟨fun _ => trivial, fun _ => trivial⟩
  pause _ := ⟨trivial, trivial⟩

open Routine (Interference)

variable {R others : σ → σ → Prop}

/-! ## What becomes of tasks -/

/-- What is left of a routine that has come to a phase. -/
def Phase.rest : Phase σ α → Routine σ α
  | .ready p | .sleeping _ p | .queued p => p
  | .joining task p => .join task p
  | .ended a => .done a

theorem Phase.rest_grant (phase : Phase σ α) : phase.grant.rest = phase.rest := by
  cases phase with
  | queued p => rfl
  | _ => rfl

theorem Phase.rest_awake (phase : Phase σ α) (now : Nat) :
    (phase.awake now).rest = phase.rest := by
  cases phase with
  | sleeping wake p =>
      by_cases h : wake ≤ now
      · rw [Phase.awake, if_pos h]
        rfl
      · rw [Phase.awake, if_neg h]
  | _ => rfl

namespace Task

/-- A task that has quiet rounds, and the rest of whose round is quiet if it is in one. -/
structure Quiet (R : σ → σ → Prop) (t : Task σ) : Prop where
  round : t.body.round.Quiet R
  rest : ∀ phase, t.progress = .inRound phase → phase.rest.Quiet R

/-- What may become of a task whoever acts. -/
structure Follows (R : σ → σ → Prop) (t t' : Task σ) : Prop where
  body : t'.body = t.body
  dormant : t'.progress = .dormant → t.progress = .dormant
  quiet : t.Quiet R → t'.Quiet R

/-- What may become of a task that nobody launches: it has ended for good if it has ended, and if it
has never begun it never does. -/
structure Settles (R : σ → σ → Prop) (t t' : Task σ) : Prop extends t.Follows R t' where
  gone : t.isOver = true → t'.isOver = true

theorem interference_follows : Interference (Follows R) where
  refl _ := ⟨rfl, id, id⟩
  trans h h' :=
    ⟨h'.body.trans h.body, fun ht => h.dormant (h'.dormant ht), fun ht => h'.quiet (h.quiet ht)⟩

theorem interference_settles : Interference (Settles R) where
  refl t := ⟨interference_follows.refl t, id⟩
  trans h h' :=
    ⟨interference_follows.trans h.toFollows h'.toFollows, fun ht => h'.gone (h.gone ht)⟩

theorem follows_launch (t : Task σ) : t.Follows R { t with progress := .beginning } := by
  refine ⟨rfl, ?_, ?_⟩
  · intro hdormant
    cases hdormant
  · intro h
    refine ⟨h.round, ?_⟩
    intro phase hphase
    cases hphase

theorem settles_cancel (t : Task σ) : t.Settles R { t with cancelled := true } :=
  ⟨⟨rfl, id, fun h => ⟨h.round, h.rest⟩⟩, id⟩

/-- A task that is going on settles in whatever place it comes to. -/
theorem settles_of_going {t t' : Task σ} (hgoing : t.isOver = false) (hbody : t'.body = t.body)
    (hbegun : t'.progress ≠ .dormant) (hquiet : t.Quiet R → t'.Quiet R) : t.Settles R t' := by
  refine ⟨⟨hbody, fun h => absurd h hbegun, hquiet⟩, ?_⟩
  intro hover
  rw [hgoing] at hover
  cases hover

theorem going_of_inRound {t : Task σ} {phase : Phase σ Unit} (h : t.progress = .inRound phase) :
    t.isOver = false := by
  simp [isOver, h]

/-- A task comes to another place in its round. -/
theorem settles_inRound {t : Task σ} {phase phase' : Phase σ Unit}
    (h : t.progress = .inRound phase)
    (hquiet : phase.rest.Quiet R → phase'.rest.Quiet R) :
    t.Settles R { t with progress := .inRound phase' } := by
  refine settles_of_going (going_of_inRound h) rfl (by simp) ?_
  intro ht
  refine ⟨ht.round, ?_⟩
  intro _ hphase
  cases hphase
  exact hquiet (ht.rest phase h)

theorem settles_grant (t : Task σ) : t.Settles R t.grant := by
  cases h : t.progress with
  | inRound phase =>
      simp only [grant, h]
      apply settles_inRound h
      rw [Phase.rest_grant]
      exact id
  | _ =>
      simp only [grant, h]
      exact interference_settles.refl t

theorem settles_awake (t : Task σ) (now : Nat) : t.Settles R (t.awake now) := by
  cases h : t.progress with
  | inRound phase =>
      simp only [awake, h]
      apply settles_inRound h
      rw [Phase.rest_awake]
      exact id
  | _ =>
      simp only [awake, h]
      exact interference_settles.refl t

/-- A round that begins. -/
theorem settles_round {t : Task σ} (hgoing : t.isOver = false) (ticker : Ticker) :
    t.Settles R { t with progress := .inRound (.ready t.body.round), ticker } := by
  refine settles_of_going hgoing rfl (by simp) ?_
  intro h
  refine ⟨h.round, ?_⟩
  intro _ hphase
  cases hphase
  exact h.round

/-- A place outside of rounds. -/
theorem settles_outside {t : Task σ} (hgoing : t.isOver = false) {progress : Progress σ}
    (hbegun : progress ≠ .dormant) (hround : ∀ phase, progress ≠ .inRound phase)
    (ticker : Ticker) : t.Settles R { t with progress, ticker } := by
  refine settles_of_going hgoing rfl hbegun ?_
  intro h
  exact ⟨h.round, fun phase hphase => absurd hphase (hround phase)⟩

theorem settles_proceed {t : Task σ} (hgoing : t.isOver = false) (now : Nat) :
    t.Settles R (t.proceed now) := by
  unfold proceed
  split
  · exact settles_outside hgoing (by simp) (by simp) t.ticker
  split
  · exact settles_round hgoing t.ticker
  · exact settles_round hgoing t.ticker
  · exact settles_outside hgoing (by simp) (by simp) t.ticker
  · split
    · exact settles_round hgoing _
    · exact settles_outside hgoing (by simp) (by simp) t.ticker

theorem settles_endRound {t : Task σ} (hgoing : t.isOver = false) (now : Nat) :
    t.Settles R (t.endRound now) := by
  unfold endRound
  split
  · exact settles_outside hgoing (by simp) (by simp) t.ticker
  · exact settles_proceed hgoing now

theorem settles_begin {t : Task σ} (hprogress : t.progress = .beginning) (now : Nat) :
    t.Settles R (t.begin now) := by
  have hgoing : t.isOver = false := by simp [isOver, hprogress]
  unfold begin
  split
  · exact settles_round hgoing t.ticker
  · next period _ =>
    split
    · exact settles_outside hgoing (by simp) (by simp) t.ticker
    · -- The ticker is set first; then the task goes on as it always does.
      have hset : t.Settles R { t with ticker := .start period now } := by
        refine settles_of_going hgoing rfl (by simp [hprogress]) ?_
        intro h
        exact ⟨h.round, h.rest⟩
      have hgoing' : Task.isOver { t with ticker := .start period now } = false := hgoing
      exact interference_settles.trans hset (settles_proceed hgoing' now)
  · exact settles_proceed hgoing now

end Task

namespace Schedule

/-- Each task becomes what it may, and there are no others. -/
def EachTask (r : Task σ → Task σ → Prop) (s s' : Schedule σ α) : Prop :=
  ∀ i : Nat, Option.Rel r s.tasks[i]? s'.tasks[i]?

namespace EachTask

variable {r : Task σ → Task σ → Prop} {s s' s'' : Schedule σ α}

theorem of_tasks_eq (hr : Interference r) (h : s'.tasks = s.tasks) : s.EachTask r s' := by
  intro i
  rw [h]
  cases s.tasks[i]? with
  | none => exact .none
  | some t => exact .some (hr.refl t)

theorem trans (hr : Interference r) (h : s.EachTask r s') (h' : s'.EachTask r s'') :
    s.EachTask r s'' := by
  intro i
  have hi := h i
  have hi' := h' i
  revert hi hi'
  generalize s.tasks[i]? = x
  generalize s'.tasks[i]? = y
  generalize s''.tasks[i]? = z
  intro hi hi'
  cases hi with
  | none => exact hi'
  | some htu =>
      cases hi' with
      | some huv => exact .some (hr.trans htu huv)

theorem imp {r' : Task σ → Task σ → Prop} (h : s.EachTask r s') (hr : ∀ t t', r t t' → r' t t') :
    s.EachTask r' s' := by
  intro i
  have hi := h i
  revert hi
  generalize s.tasks[i]? = x
  generalize s'.tasks[i]? = y
  intro hi
  cases hi with
  | none => exact .none
  | some htu => exact .some (hr _ _ htu)

theorem onTask (hr : Interference r) (s : Schedule σ α) (task : Nat) {f : Task σ → Task σ}
    (hf : ∀ t, s.tasks[task]? = some t → r t (f t)) : s.EachTask r (s.onTask task f) := by
  intro i
  simp only [Schedule.onTask, List.getElem?_modify]
  cases ht : s.tasks[i]? with
  | none => exact .none
  | some t =>
      refine .some ?_
      by_cases hi : task = i
      · subst hi
        simpa using hf t ht
      · simpa [hi] using hr.refl t

/-- A task later on, and as it was before. -/
theorem task (h : s.EachTask r s') {i : Nat} {t' : Task σ} (ht' : s'.tasks[i]? = some t') :
    ∃ t, s.tasks[i]? = some t ∧ r t t' := by
  have hi := h i
  rw [ht'] at hi
  cases hs : s.tasks[i]? with
  | none =>
      rw [hs] at hi
      cases hi
  | some t =>
      rw [hs] at hi
      cases hi with
      | some ht => exact ⟨t, rfl, ht⟩

/-- A task, and what becomes of it. -/
theorem later (h : s.EachTask r s') {i : Nat} {t : Task σ} (ht : s.tasks[i]? = some t) :
    ∃ t', s'.tasks[i]? = some t' ∧ r t t' := by
  have hi := h i
  rw [ht] at hi
  cases hs : s'.tasks[i]? with
  | none =>
      rw [hs] at hi
      cases hi
  | some t' =>
      rw [hs] at hi
      cases hi with
      | some htt => exact ⟨t', rfl, htt⟩

/-- What has ended has ended for good. -/
theorem isOver (h : s.EachTask (Task.Settles R) s') {i : Nat} (hover : s.isOver i = true) :
    s'.isOver i = true := by
  cases ht' : s'.tasks[i]? with
  | none => simp [Schedule.isOver, ht']
  | some t' =>
      obtain ⟨t, ht, hsettles⟩ := h.task ht'
      rw [isOver_of_task ht] at hover
      rw [isOver_of_task ht']
      exact hsettles.gone hover

end EachTask

/-- All tasks of a schedule are quiet. -/
def Quiet (R : σ → σ → Prop) (s : Schedule σ α) : Prop :=
  ∀ (i : Nat) (t : Task σ), s.tasks[i]? = some t → t.Quiet R

theorem EachTask.quiet {s s' : Schedule σ α} (h : s.EachTask (Task.Follows R) s')
    (hs : s.Quiet R) : s'.Quiet R := by
  intro i t' ht'
  obtain ⟨t, ht, hfollows⟩ := h.task ht'
  exact hfollows.quiet (hs i t ht)

theorem follows_of_settles {s s' : Schedule σ α} (h : s.EachTask (Task.Settles R) s') :
    s.EachTask (Task.Follows R) s' :=
  h.imp fun _ _ ht => ht.toFollows

/-! ## Routines that are interrupted -/

/-- A routine runs until it has to wait or ends, or is interrupted after so many steps. -/
def runFor (me : Option Nat) : Nat → Schedule σ α → Routine σ β → Schedule σ α × Phase σ β
  | 0, s, p => (s, .ready p)
  | _ + 1, s, .done b => (s, .ended b)
  | n + 1, s, .act change next =>
    runFor me n { s with state := change s.state } (next s.state)
  | n + 1, s, .clock next => runFor me n s (next s.now)
  | n + 1, s, .sleep d next =>
    let wake := Ticker.fireAt (s.now + d.nanos)
    if wake ≤ s.now then runFor me n s next else (s, .sleeping wake next)
  | n + 1, s, .acquire next =>
    if s.held then ({ s with queue := s.queue ++ [me] }, .queued next)
    else runFor me n { s with held := true } next
  | n + 1, s, .release next => runFor me n s.unlock next
  | n + 1, s, .launch task next =>
    runFor me n (s.onTask task ({ · with progress := .beginning })) next
  | n + 1, s, .cancel task next =>
    runFor me n (s.onTask task ({ · with cancelled := true })) next
  | n + 1, s, .join task next =>
    if s.isOver task then runFor me n s next else (s, .joining task next)

/-- A routine that is interrupted late enough has had to wait, or has ended. -/
theorem exists_runFor (s : Schedule σ α) (me : Option Nat) (p : Routine σ β) :
    ∃ limit, runFor me limit s p = s.perform me p := by
  induction p generalizing s with
  | done b => exact ⟨1, rfl⟩
  | act change next ih =>
      obtain ⟨n, hn⟩ := ih s.state { s with state := change s.state }
      exact ⟨n + 1, hn⟩
  | clock next ih =>
      obtain ⟨n, hn⟩ := ih s.now s
      exact ⟨n + 1, hn⟩
  | sleep d next ih =>
      obtain ⟨n, hn⟩ := ih s
      refine ⟨n + 1, ?_⟩
      simp only [runFor, perform, hn]
  | acquire next ih =>
      obtain ⟨n, hn⟩ := ih { s with held := true }
      refine ⟨n + 1, ?_⟩
      simp only [runFor, perform, hn]
  | release next ih =>
      obtain ⟨n, hn⟩ := ih s.unlock
      exact ⟨n + 1, hn⟩
  | launch task next ih =>
      obtain ⟨n, hn⟩ := ih (s.onTask task ({ · with progress := .beginning }))
      exact ⟨n + 1, hn⟩
  | cancel task next ih =>
      obtain ⟨n, hn⟩ := ih (s.onTask task ({ · with cancelled := true }))
      exact ⟨n + 1, hn⟩
  | join task next ih =>
      obtain ⟨n, hn⟩ := ih s
      refine ⟨n + 1, ?_⟩
      simp only [runFor, perform, hn]

theorem unlock_eachTask {r : Task σ → Task σ → Prop} (hr : Interference r)
    (hgrant : ∀ t, r t t.grant) (s : Schedule σ α) : s.EachTask r s.unlock := by
  unfold unlock
  split
  · exact .of_tasks_eq hr rfl
  · exact .of_tasks_eq hr rfl
  · next task rest _ =>
    have hgranted : s.EachTask r (s.onTask task Task.grant) := .onTask hr s task fun t _ => hgrant t
    exact hgranted.trans hr (.of_tasks_eq hr rfl)

/-- What a routine does to tasks that runs: the lock is given to one, and unless the routine has
nothing to do with tasks, one is asked to end or launched. -/
theorem runFor_eachTask {r : Task σ → Task σ → Prop} (hr : Interference r)
    (hgrant : ∀ t, r t t.grant) (me : Option Nat) (limit : Nat) (s : Schedule σ α)
    (p : Routine σ β)
    (htaskless : p.Taskless ∨
      ∀ t, r t { t with cancelled := true } ∧ r t { t with progress := .beginning }) :
    s.EachTask r (runFor me limit s p).1 := by
  induction limit generalizing s p with
  | zero => exact .of_tasks_eq hr rfl
  | succ n ih =>
      cases p with
      | done b => exact .of_tasks_eq hr rfl
      | act change next =>
          have hfirst : s.EachTask r { s with state := change s.state } := .of_tasks_eq hr rfl
          exact hfirst.trans hr (ih _ _ (htaskless.imp_left fun h => h s.state))
      | clock next => exact ih s _ (htaskless.imp_left fun h => h s.now)
      | sleep d next =>
          simp only [runFor]
          split
          · exact ih s next htaskless
          · exact .of_tasks_eq hr rfl
      | acquire next =>
          simp only [runFor]
          split
          · exact .of_tasks_eq hr rfl
          · have hfirst : s.EachTask r { s with held := true } := .of_tasks_eq hr rfl
            exact hfirst.trans hr (ih _ next htaskless)
      | release next => exact (unlock_eachTask hr hgrant s).trans hr (ih s.unlock next htaskless)
      | launch task next =>
          rcases htaskless with h | h
          · exact h.elim
          · exact (EachTask.onTask hr s task fun t _ => (h t).2).trans hr (ih _ next (.inr h))
      | cancel task next =>
          rcases htaskless with h | h
          · exact h.elim
          · exact (EachTask.onTask hr s task fun t _ => (h t).1).trans hr (ih _ next (.inr h))
      | join task next =>
          rcases htaskless with h | h
          · exact h.elim
          · simp only [runFor]
            split
            · exact ih s next (.inr h)
            · exact .of_tasks_eq hr rfl

theorem eachTask_advance (s : Schedule σ α) (n : Nat) :
    s.EachTask (Task.Settles R) (s.advance n) := by
  intro i
  simp only [advance, List.getElem?_map]
  cases s.tasks[i]? with
  | none => exact .none
  | some t => exact .some (Task.settles_awake t _)

theorem runFor_follows (me : Option Nat) (limit : Nat) (s : Schedule σ α) (p : Routine σ β) :
    s.EachTask (Task.Follows R) (runFor me limit s p).1 :=
  runFor_eachTask Task.interference_follows (fun t => (Task.settles_grant t).toFollows) me limit s p
    (.inr fun t => ⟨(Task.settles_cancel t).toFollows, Task.follows_launch t⟩)

/-- While a routine runs that has nothing to do with tasks, the tasks settle. -/
theorem runFor_settles (me : Option Nat) (limit : Nat) (s : Schedule σ α) {p : Routine σ β}
    (hp : p.Taskless) : s.EachTask (Task.Settles R) (runFor me limit s p).1 :=
  runFor_eachTask Task.interference_settles Task.settles_grant me limit s p (.inl hp)

/-- What is left of a quiet routine that has run is quiet, and it has changed the state as each of
its changes does. -/
theorem runFor_quiet (ho : Interference R) (me : Option Nat) (limit : Nat) (s : Schedule σ α)
    {p : Routine σ β} (hp : p.Quiet R) :
    R s.state (runFor me limit s p).1.state ∧ (runFor me limit s p).2.rest.Quiet R := by
  induction limit generalizing s p with
  | zero => exact ⟨ho.refl _, hp⟩
  | succ n ih =>
      obtain ⟨htaskless, hkeeps⟩ := hp
      cases p with
      | done b => exact ⟨ho.refl _, trivial, trivial⟩
      | act change next =>
          obtain ⟨hchange, hnext⟩ := hkeeps s.state
          obtain ⟨hstate, hrest⟩ := ih { s with state := change s.state } ⟨htaskless s.state, hnext⟩
          exact ⟨ho.trans hchange hstate, hrest⟩
      | clock next => exact ih s ⟨htaskless s.now, hkeeps s.now⟩
      | sleep d next =>
          simp only [runFor]
          split
          · exact ih s ⟨htaskless, hkeeps⟩
          · exact ⟨ho.refl _, htaskless, hkeeps⟩
      | acquire next =>
          simp only [runFor]
          split
          · exact ⟨ho.refl _, htaskless, hkeeps⟩
          · exact ih { s with held := true } ⟨htaskless, hkeeps⟩
      | release next =>
          have hnext := ih s.unlock (p := next) ⟨htaskless, hkeeps⟩
          rw [unlock_state] at hnext
          exact hnext
      | launch _ _ => exact htaskless.elim
      | cancel _ _ => exact htaskless.elim
      | join _ _ => exact htaskless.elim

/-! ## What becomes of the main routine while others act -/

/-- A main routine that does not run itself may be given the lock, or be woken. -/
inductive Nudged (phase phase' : Phase σ α) : Prop where
  | same (same : phase' = phase)
  | granted (granted : phase' = phase.grant)
  | woken (now : Nat) (woken : phase' = phase.awake now)

theorem Nudged.rest {phase phase' : Phase σ α} (h : Nudged phase phase') :
    phase'.rest = phase.rest := by
  cases h with
  | same h => rw [h]
  | granted h => rw [h, Phase.rest_grant]
  | woken now h => rw [h, Phase.rest_awake]

theorem Nudged.ended {phase phase' : Phase σ α} {a : α} (h : Nudged phase phase')
    (hphase : phase = .ended a) : phase' = .ended a := by
  subst hphase
  cases h with
  | same h => exact h
  | granted h => exact h
  | woken _ h => exact h

theorem grant_grant (phase : Phase σ α) : phase.grant.grant = phase.grant := by
  cases phase with
  | queued p => rfl
  | _ => rfl

theorem unlock_main_grant (s : Schedule σ α) :
    s.unlock.main = s.main ∨ s.unlock.main = s.main.grant := by
  unfold unlock
  split
  · exact .inl rfl
  · exact .inr rfl
  · exact .inl rfl

theorem runFor_main (me : Option Nat) (limit : Nat) (s : Schedule σ α) (p : Routine σ β) :
    (runFor me limit s p).1.main = s.main ∨ (runFor me limit s p).1.main = s.main.grant := by
  induction limit generalizing s p with
  | zero => exact .inl rfl
  | succ n ih =>
      cases p with
      | done b => exact .inl rfl
      | act change next => exact ih { s with state := change s.state } _
      | clock next => exact ih s _
      | sleep d next =>
          simp only [runFor]
          split
          · exact ih s next
          · exact .inl rfl
      | acquire next =>
          simp only [runFor]
          split
          · exact .inl rfl
          · exact ih { s with held := true } next
      | release next =>
          -- The lock may be given to the main routine once; being given it again makes no
          -- difference.
          have hnext := ih s.unlock next
          rcases s.unlock_main_grant with h | h
          · rw [h] at hnext
            exact hnext
          · rw [h, grant_grant, or_self] at hnext
            exact .inr hnext
      | launch task next => exact ih (s.onTask task ({ · with progress := .beginning })) next
      | cancel task next => exact ih (s.onTask task ({ · with cancelled := true })) next
      | join task next =>
          simp only [runFor]
          split
          · exact ih s next
          · exact .inl rfl

/-! ## All ways to go on -/

/-- A way in which a schedule goes on. From outside the state is changed as `others` says. -/
inductive Stirs (others : σ → σ → Prop) (a : Schedule σ α) : Schedule σ α → Prop where
  /-- The main routine runs. -/
  | main (limit : Nat) (p : Routine σ α) (here : a.main = .ready p) :
      Stirs others a { (runFor none limit a p).1 with main := (runFor none limit a p).2 }
  /-- The main routine sees that a task has ended. -/
  | joined (task : Nat) (p : Routine σ α) (here : a.main = .joining task p)
      (gone : a.isOver task = true) : Stirs others a { a with main := .ready p }
  /-- A task begins. -/
  | begins (i : Nat) (t : Task σ) (here : a.tasks[i]? = some t)
      (progress : t.progress = .beginning) : Stirs others a (a.onTask i (Task.begin a.now))
  /-- A task runs in its round. -/
  | runs (limit i : Nat) (t : Task σ) (p : Routine σ Unit) (here : a.tasks[i]? = some t)
      (progress : t.progress = .inRound (.ready p)) :
      Stirs others a ((runFor (some i) limit a p).1.onTask i
        ({ · with progress := .inRound (runFor (some i) limit a p).2 }))
  /-- A task has ended a round. -/
  | ends (i : Nat) (t : Task σ) (here : a.tasks[i]? = some t)
      (progress : t.progress = .inRound (.ended ())) :
      Stirs others a (a.onTask i (Task.endRound a.now))
  /-- A task has waited for a tick or to be stopped. -/
  | proceeds (i : Nat) (t : Task σ) (here : a.tasks[i]? = some t)
      (progress : t.progress = .between ∨ t.progress = .idling) :
      Stirs others a (a.onTask i (Task.proceed a.now))
  /-- A task ends by a panic in its round, and gives the lock back if it has it. -/
  | panics (i : Nat) (t : Task σ) (p : Routine σ Unit) (frees : Bool)
      (here : a.tasks[i]? = some t) (progress : t.progress = .inRound (.ready p)) :
      Stirs others a ((if frees then a.unlock else a).onTask i ({ · with progress := .over }))
  /-- The clock moves. -/
  | clock (n : Nat) : Stirs others a (a.advance n)
  /-- Others change the state. -/
  | outside (x : σ) (change : others a.state x) : Stirs others a { a with state := x }

/-- How a schedule goes on for a while. -/
abbrev Drifts (others : σ → σ → Prop) : Schedule σ α → Schedule σ α → Prop :=
  Relation.ReflTransGen (Stirs others)

theorem stirs_of_turn {others : σ → σ → Prop} {s : Schedule σ α} {i : Nat} {t : Task σ}
    (ht : s.tasks[i]? = some t) (hready : t.isReady s.now = true) :
    s.Stirs others (s.turn i t) := by
  cases hp : t.progress with
  | beginning =>
      simp only [turn, hp]
      exact .begins i t ht hp
  | between =>
      simp only [turn, hp]
      exact .proceeds i t ht (.inl hp)
  | idling =>
      simp only [turn, hp]
      exact .proceeds i t ht (.inr hp)
  | inRound phase =>
      cases phase with
      | sleeping _ _ | queued _ | joining _ _ => simp [Task.isReady, hp] at hready
      | ended r =>
          simp only [turn, hp]
          exact .ends i t ht hp
      | ready p =>
          obtain ⟨limit, hlimit⟩ := s.exists_runFor (some i) p
          simp only [turn, hp]
          rw [← hlimit]
          exact .runs limit i t p ht hp
  | _ => simp [Task.isReady, hp] at hready

theorem stirs_of_waiting {others : σ → σ → Prop} {a b : Schedule σ α}
    (h : (match a.firstReady? with
      | some (i, t) => some (a.turn i t)
      | none => a.nextWake?.map a.advance) = some b) : a.Stirs others b := by
  cases hfirst : a.firstReady? with
  | some it =>
      obtain ⟨i, t⟩ := it
      obtain ⟨hget, hready⟩ := ready_of_firstReady? hfirst
      rw [hfirst] at h
      obtain rfl := Option.some.inj h
      exact stirs_of_turn hget hready
  | none =>
      rw [hfirst] at h
      obtain ⟨n, _, rfl⟩ := Option.map_eq_some_iff.1 h
      exact .clock n

/-- The steps of a schedule are among the ways in which it goes on. -/
theorem stirs_of_step {others : σ → σ → Prop} {a b : Schedule σ α} (h : a.step? = some b) :
    a.Stirs others b := by
  cases hmain : a.main with
  | ready p =>
      rw [step_of_ready hmain] at h
      obtain rfl := Option.some.inj h
      obtain ⟨limit, hlimit⟩ := a.exists_runFor none p
      rw [← hlimit]
      exact .main limit p hmain
  | joining task p =>
      by_cases hover : a.isOver task = true
      · rw [step_of_joined hmain hover] at h
        obtain rfl := Option.some.inj h
        exact .joined task p hmain hover
      · simp only [step?, hmain, hover] at h
        exact stirs_of_waiting h
  | sleeping _ _ | queued _ | ended _ =>
      simp only [step?, hmain] at h
      exact stirs_of_waiting h

/-- What a way to go on amounts to, if the tasks are quiet. -/
inductive Kind (R : σ → σ → Prop) (a b : Schedule σ α) : Prop where
  /-- The main routine runs. -/
  | main (limit : Nat) (p : Routine σ α) (here : a.main = .ready p)
      (after : b = { (runFor none limit a p).1 with main := (runFor none limit a p).2 })
  /-- The main routine sees that a task has ended. -/
  | joined (task : Nat) (p : Routine σ α) (here : a.main = .joining task p)
      (gone : a.isOver task = true) (after : b = { a with main := .ready p })
  /-- The main routine waits, and the tasks settle. -/
  | around (tasks : a.EachTask (Task.Settles R) b) (state : R a.state b.state)
      (main : Nudged a.main b.main)

/-- The turn of a task that only changes its own place. -/
theorem kind_of_onTask (ho : Interference R) {a : Schedule σ α} {i : Nat} {t : Task σ}
    (here : a.tasks[i]? = some t) {f : Task σ → Task σ} (hf : t.Settles R (f t)) :
    a.Kind R (a.onTask i f) := by
  refine .around (.onTask Task.interference_settles a i ?_) (ho.refl _) (.same rfl)
  intro u hu
  rw [here] at hu
  cases hu
  exact hf

/-- The turn of a task in its round. -/
theorem kind_of_runs (ho : Interference R) {a : Schedule σ α} (hquiet : a.Quiet R) {i : Nat}
    {t : Task σ} {p : Routine σ Unit} (limit : Nat) (here : a.tasks[i]? = some t)
    (progress : t.progress = .inRound (.ready p)) :
    a.Kind R ((runFor (some i) limit a p).1.onTask i
      ({ · with progress := .inRound (runFor (some i) limit a p).2 })) := by
  have hp : p.Quiet R := (hquiet i t here).rest _ progress
  obtain ⟨hstate, hrest⟩ := runFor_quiet ho (some i) limit a hp
  have hrun : a.EachTask (Task.Settles R) (runFor (some i) limit a p).1 :=
    runFor_settles (some i) limit a hp.taskless
  have hmain : Nudged a.main (runFor (some i) limit a p).1.main := by
    rcases runFor_main (some i) limit a p with h | h
    · exact .same h
    · exact .granted h
  refine .around ?_ hstate hmain
  -- Whatever the task was while it ran, it is in its round now, and was in it before.
  intro j
  by_cases hj : i = j
  · subst hj
    obtain ⟨u, hu, hfollows⟩ := hrun.later here
    rw [onTask_self hu, here]
    refine .some (Task.settles_of_going (Task.going_of_inRound progress) hfollows.body (by simp) ?_)
    intro ht
    refine ⟨(hfollows.quiet ht).round, ?_⟩
    intro _ hphase
    cases hphase
    exact hrest
  · rw [onTask_of_ne hj]
    exact hrun j

theorem Stirs.kind {others : σ → σ → Prop} (ho : Interference R)
    (hothers : ∀ s t, others s t → R s t) {a b : Schedule σ α} (hquiet : a.Quiet R)
    (h : a.Stirs others b) : a.Kind R b := by
  cases h with
  | main limit p here => exact .main limit p here rfl
  | joined task p here gone => exact .joined task p here gone rfl
  | begins i t here progress => exact kind_of_onTask ho here (Task.settles_begin progress _)
  | runs limit i t p here progress => exact kind_of_runs ho hquiet limit here progress
  | ends i t here progress =>
      exact kind_of_onTask ho here (Task.settles_endRound (Task.going_of_inRound progress) _)
  | proceeds i t here progress =>
      have hgoing : t.isOver = false := by
        rcases progress with h | h
        · simp [Task.isOver, h]
        · simp [Task.isOver, h]
      exact kind_of_onTask ho here (Task.settles_proceed hgoing _)
  | panics i t p frees here progress =>
      have hover : ∀ u : Task σ, u.Settles R { u with progress := .over } := by
        intro u
        refine ⟨⟨rfl, by simp, ?_⟩, fun _ => rfl⟩
        intro hu
        exact ⟨hu.round, by simp⟩
      have hends : ∀ s : Schedule σ α,
          s.EachTask (Task.Settles R) (s.onTask i ({ · with progress := .over })) :=
        fun s => .onTask Task.interference_settles s i fun u _ => hover u
      cases frees with
      | false => exact .around (hends a) (ho.refl _) (.same rfl)
      | true =>
          have hfirst : a.EachTask (Task.Settles R) a.unlock :=
            unlock_eachTask Task.interference_settles Task.settles_grant a
          refine .around (hfirst.trans Task.interference_settles (hends a.unlock)) ?_ ?_
          · show R a.state a.unlock.state
            rw [unlock_state]
            exact ho.refl _
          · rcases a.unlock_main_grant with h | h
            · exact .same h
            · exact .granted h
  | clock n => exact .around (eachTask_advance a n) (ho.refl _) (.woken _ rfl)
  | outside x change =>
      exact .around (.of_tasks_eq Task.interference_settles rfl) (hothers _ _ change) (.same rfl)

theorem Kind.follows {a b : Schedule σ α} (h : a.Kind R b) : a.EachTask (Task.Follows R) b := by
  cases h with
  | main limit p _ after =>
      subst after
      exact runFor_follows none limit a p
  | joined _ _ _ _ after =>
      subst after
      exact .of_tasks_eq Task.interference_follows rfl
  | around tasks _ _ => exact follows_of_settles tasks

end Schedule

end HomeEnergy
