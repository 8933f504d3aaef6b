import HomeEnergy.Module.Worker
import HomeEnergy.Proofs.Routine.Ends
import HomeEnergy.Proofs.Routine.Loop

/-!
# Stopping workers

The stop of a worker asks its task to end and then waits for it. A loop looks at the request before
it looks at its ticker, and nowhere else, so that it starts no round any more and leaves none half
done. The stop is prompt: outside a round it needs a few turns and no time.

## Main results

* `Schedule.Stopping` — how far a stop has come.
* `Schedule.Stopping.moves` — what a step does to a stop.
* `Schedule.Stopping.prompt` — outside a round a stop takes no time and only a few turns.
* `Schedule.still_of_over` — behind the end of a loop all that happens is what others do.
-/

namespace HomeEnergy

open Routine (Part)

variable {σ α : Type}

/-! ## The stop of a worker -/

namespace Worker

variable {part : Part σ Worker} {s : Schedule σ α} {me : Option Nat} {i : Nat}

/-- A worker whose task has ended. -/
def stopped (w : Worker) : Worker := { w with state := .stopped, task := none }

/-- The last thing that a stop does. -/
def leave (part : Part σ Worker) : Routine σ Unit := .change (part.modify stopped)

/-- What a stop does at once: the worker is to end, and its task is asked to. -/
def asked (part : Part σ Worker) (i : Nat) (s : Schedule σ α) : Schedule σ α :=
  { s.onTask i ({ · with cancelled := true }) with
    state := part.modify ({ · with state := .aborting }) s.state }

theorem perform_wait (htask : (part.get s.state).task = some i) :
    s.perform me (wait part) = s.perform me (.join i (leave part)) := by
  simp only [wait, bind, Routine.bind, Routine.look, Schedule.perform, id, htask]
  rfl

/-- A stop asks the task to end, and waits for that. -/
theorem perform_abort (hp : part.Lawful) (hstate : (part.get s.state).state = .running)
    (htask : (part.get s.state).task = some i) :
    s.perform me (abort part) = (asked part i s).perform me (.join i (leave part)) := by
  have hne : ¬(part.get s.state).state = .stopped := by
    rw [hstate]
    decide
  have htask' : (part.get (asked part i s).state).task = some i := by
    rw [asked, Part.modify, hp.get_set]
    exact htask
  have hrun : s.perform me (abort part) = (asked part i s).perform me (wait part) := by
    simp only [abort, bind, Routine.bind, Routine.look, Routine.change, Schedule.perform, id,
      if_neg hne, htask]
    rfl
  rw [hrun, perform_wait htask']

/-- A worker that has stopped is not stopped again. -/
theorem perform_abort_of_stopped (hstate : (part.get s.state).state = .stopped) :
    s.perform me (abort part) = (s, .ended ()) := by
  simp only [abort, bind, Routine.bind, Routine.look, Schedule.perform, id, if_pos hstate]
  rfl

/-- There is nothing to wait for in a worker that has stopped. -/
theorem perform_wait_of_stopped (hp : part.Lawful) (hstate : (part.get s.state).state = .stopped)
    (htask : (part.get s.state).task = none) : s.perform me (wait part) = (s, .ended ()) := by
  have hsame : part.modify stopped s.state = s.state := by
    have hstopped : stopped (part.get s.state) = part.get s.state := by
      rw [stopped, ← hstate, ← htask]
    rw [Part.modify, hstopped, hp.set_get]
  have hrun : s.perform me (wait part) = ({ s with state := part.modify stopped s.state },
      .ended ()) := by
    simp only [wait, bind, Routine.bind, Routine.look, Schedule.perform, id, htask]
    rfl
  rw [hrun, hsame]

end Worker

/-! ## How far a stop has come -/

namespace Schedule

variable {part : Part σ Worker} {i : Nat} {b b' : Schedule σ Unit} {t t' : Task σ}

/-- How far the stop of a worker has come that the main routine has been given to do. -/
inductive Stopping (part : Part σ Worker) (i : Nat) (b : Schedule σ Unit) (t : Task σ) : Prop where
  /-- It is to begin. -/
  | asking (main : b.main = .ready (Worker.abort part))
      (running : (part.get b.state).state = .running) (task : (part.get b.state).task = some i)
  /-- The loop has been asked to end, and its end is waited for. -/
  | joining (main : b.main = .joining i (Worker.leave part)) (asked : t.cancelled = true)
  /-- The loop has ended. -/
  | leaving (main : b.main = .ready (Worker.leave part)) (asked : t.cancelled = true)
      (ended : t.isOver = true)
  | returned (main : b.main = .ended ()) (asked : t.cancelled = true) (ended : t.isOver = true)

/-- The first step of a stop asks the loop to end, and does nothing else to it. A loop that has
ended is not waited for. -/
theorem step_of_asking (hp : part.Lawful) (main : b.main = .ready (Worker.abort part))
    (running : (part.get b.state).state = .running) (task : (part.get b.state).task = some i)
    (here : b.tasks[i]? = some t) (hstep : b.step? = some b') :
    b'.now = b.now ∧ b'.tasks[i]? = some { t with cancelled := true } ∧
      ((t.isOver = true ∧ b'.main = .ended () ∧
          part.get b'.state = (part.get b.state).stopped) ∨
        (t.isOver = false ∧ b'.main = .joining i (Worker.leave part))) := by
  have hasked : (Worker.asked part i b).tasks[i]? = some { t with cancelled := true } :=
    onTask_self here _
  have hover : (Worker.asked part i b).isOver i = t.isOver := (isOver_of_task hasked).trans rfl
  rw [step_of_ready main, Worker.perform_abort hp running task, perform, hover] at hstep
  cases ht : t.isOver with
  | true =>
      rw [ht, if_pos rfl] at hstep
      obtain rfl := Option.some.inj hstep
      refine ⟨rfl, hasked, .inl ⟨rfl, rfl, ?_⟩⟩
      show part.get (part.modify Worker.stopped (Worker.asked part i b).state) = _
      rw [Part.modify, hp.get_set, Worker.asked, Part.modify, hp.get_set]
      rfl
  | false =>
      rw [ht, if_neg (by simp)] at hstep
      obtain rfl := Option.some.inj hstep
      exact ⟨rfl, hasked, .inr ⟨rfl, rfl⟩⟩

/-- What a step of a schedule does to a stop. -/
inductive StopMoves (part : Part σ Worker) (i : Nat) (b b' : Schedule σ Unit) (t : Task σ) :
    Prop where
  /-- The loop is asked to end. -/
  | asks (task : b'.tasks[i]? = some { t with cancelled := true })
      (next : b'.main = .joining i (Worker.leave part))
  /-- The loop is asked to end although it has ended. -/
  | finds (task : b'.tasks[i]? = some { t with cancelled := true }) (ended : t.isOver = true)
      (stopped : part.get b'.state = (part.get b.state).stopped) (next : b'.main = .ended ())
  /-- The loop goes on, and the stop waits for its end. -/
  | waits (asked : t.cancelled = true) (next : b'.main = .joining i (Worker.leave part))
  /-- The stop sees that the loop has ended. -/
  | sees (asked : t.cancelled = true) (ended : t.isOver = true)
      (next : b'.main = .ready (Worker.leave part))
  /-- The stop returns. -/
  | returns (asked : t.cancelled = true) (ended : t.isOver = true)
      (stopped : part.get b'.state = (part.get b.state).stopped) (next : b'.main = .ended ())
  /-- The stop has returned before. -/
  | rests (asked : t.cancelled = true) (ended : t.isOver = true) (main : b.main = .ended ())
      (next : b'.main = .ended ())

/-- These are all the moves of a stop. -/
theorem Stopping.moves (hp : part.Lawful) (h : Stopping part i b t)
    (here : b.tasks[i]? = some t) (hstep : b.step? = some b') : StopMoves part i b b' t := by
  cases h with
  | asking main running task =>
      obtain ⟨-, htask, ⟨hended, hmain, hstopped⟩ | ⟨_, hmain⟩⟩ :=
        step_of_asking hp main running task here hstep
      · exact .finds htask hended hstopped hmain
      · exact .asks htask hmain
  | joining main asked =>
      have htask : b.isOver i = t.isOver := isOver_of_task here
      cases hover : t.isOver with
      | true =>
          rw [step_of_joined main (htask.trans hover)] at hstep
          obtain rfl := Option.some.inj hstep
          exact .sees asked hover rfl
      | false =>
          have hidle : b.mainActs = false := by simp [mainActs, main, htask, hover]
          have hsame := main_of_waiting hstep hidle (.inl ⟨_, _, main⟩)
          exact .waits asked (hsame.trans main)
  | leaving main asked ended =>
      rw [step_of_ready main] at hstep
      obtain rfl := Option.some.inj hstep
      have hstopped : part.get (part.modify Worker.stopped b.state)
          = (part.get b.state).stopped := by
        rw [Part.modify, hp.get_set]
      exact .returns asked ended hstopped rfl
  | returned main asked ended =>
      have hidle : b.mainActs = false := by simp [mainActs, main]
      have hsame := main_of_waiting hstep hidle (.inr ⟨_, main⟩)
      exact .rests asked ended main (hsame.trans main)

/-- Each step takes the stop on or leaves it where it is. -/
theorem Stopping.step {period : Span} (hp : part.Lawful) (h : Stopping part i b t)
    (here : b.tasks[i]? = some t) (hstep : b.step? = some b') (after : b'.tasks[i]? = some t')
    (hcancelled : t.cancelled = true → t'.cancelled = true)
    (hmove : LoopMoves period i b b' t t') : Stopping part i b' t' := by
  cases h.moves hp here hstep with
  | asks task next =>
      obtain rfl := Option.some.inj (task.symm.trans after)
      exact .joining next rfl
  | finds task ended _ next =>
      obtain rfl := Option.some.inj (task.symm.trans after)
      exact .returned next rfl ended
  | waits asked next => exact .joining next (hcancelled asked)
  | sees asked ended next => exact .leaving next (hcancelled asked) (hmove.isOver ended)
  | returns asked ended _ next => exact .returned next (hcancelled asked) (hmove.isOver ended)
  | rests asked ended _ next => exact .returned next (hcancelled asked) (hmove.isOver ended)

/-- When a stop returns, the worker has stopped. -/
theorem Stopping.returns (hp : part.Lawful) (h : Stopping part i b t)
    (here : b.tasks[i]? = some t) (hstep : b.step? = some b') (hbefore : b.main ≠ .ended ())
    (hafter : b'.main = .ended ()) : part.get b'.state = (part.get b.state).stopped := by
  cases h.moves hp here hstep with
  | finds _ _ stopped _ | returns _ _ stopped _ => exact stopped
  | asks _ next | waits _ next | sees _ _ next =>
      rw [next] at hafter
      cases hafter
  | rests _ _ main _ => exact absurd main hbefore

/-! ## How long a stop takes -/

/-- How many turns of the main routine and of the loop a stop takes at most, once the loop is in no
round. -/
def toGo (s : Schedule σ α) (i : Nat) : Nat :=
  match s.main with
  | .ready _ => if s.isOver i then 1 else 4
  | .joining _ _ => if s.isOver i then 2 else 3
  | _ => 0

/-- A loop that is asked to end while it is in no round ends with its next turn. -/
theorem over_of_turn {s : Schedule σ α} {period : Span} (here : s.tasks[i]? = some t)
    (hpace : t.body.pace = .ticking period) (hasked : t.cancelled = true) (hbusy : t.busy = false)
    (hready : t.isReady s.now = true) :
    ∃ t', (s.turn i t).tasks[i]? = some t' ∧ t'.isOver = true := by
  have hproceed : (t.proceed s.now).isOver = true := by
    rw [Task.proceed_of_cancelled hasked]
    rfl
  unfold turn
  cases hprogress : t.progress with
  | beginning =>
      refine ⟨_, onTask_self here _, ?_⟩
      by_cases hzero : period.nanos = 0
      · rw [Task.begin_of_no_period hpace hzero]
        rfl
      · rw [Task.begin_of_cancelled hasked hpace (by omega)]
        rfl
  | between => exact ⟨_, onTask_self here _, hproceed⟩
  | idling => exact ⟨_, onTask_self here _, hproceed⟩
  | inRound phase =>
      have hended := Task.ended_of_not_busy hprogress hbusy
      subst hended
      refine ⟨_, onTask_self here _, ?_⟩
      rw [Task.endRound_of_ticking hpace]
      exact hproceed
  | _ => simp [Task.isReady, hprogress] at hready

/-- A loop that has been asked to end, and is in no round, can do so. -/
theorem ready_of_asked (now : Nat) (hasked : t.cancelled = true) (hbusy : t.busy = false)
    (hover : t.isOver = false) : t.isReady now = true := by
  cases hprogress : t.progress with
  | inRound phase =>
      have hended := Task.ended_of_not_busy hprogress hbusy
      simp [Task.isReady, hprogress, hended]
  | beginning => simp [Task.isReady, hprogress]
  | between => simp [Task.isReady, hprogress, hasked]
  | idling => simp [Task.isReady, hprogress, hasked]
  | _ => simp [Task.isOver, hprogress] at hover

theorem toGo_le (s : Schedule σ α) (i : Nat) : s.toGo i ≤ 4 := by
  unfold toGo
  repeat' split
  all_goals omega

/-- A stop that waits for a loop in no round: whoever takes the next turn, no time passes, and the
turn of the loop ends it. -/
theorem joining_prompt {period : Span} (main : b.main = .joining i (Worker.leave part))
    (here : b.tasks[i]? = some t) (hpace : t.body.pace = .ticking period)
    (hasked : t.cancelled = true) (hbusy : t.busy = false) (hover : t.isOver = false) :
    ∃ b', b.step? = some b' ∧ b'.now = b.now ∧ b.mainActs = false ∧
      (b.acting? = some i → b'.toGo i < b.toGo i) ∧
      (b.acting? ≠ some i → b'.toGo i = b.toGo i) := by
  have htask : b.isOver i = false := (isOver_of_task here).trans hover
  have hidle : b.mainActs = false := by simp [mainActs, main, htask]
  have hready := ready_of_asked b.now hasked hbusy hover
  have hqueued : ∀ q, b.main ≠ .queued q := by simp [main]
  cases hfirst : b.firstReady? with
  | none =>
      rw [not_ready_of_firstReady? hfirst here] at hready
      cases hready
  | some ju =>
      obtain ⟨j, u⟩ := ju
      have hacting : b.acting? = some j := by simp [acting?, hidle, hfirst]
      have hstep : b.step? = some (b.turn j u) := by simp [step?, main, htask, hfirst]
      have hmain : (b.turn j u).main = .joining i (Worker.leave part) :=
        (turn_main hqueued j u).trans main
      have htoGo : b.toGo i = 3 := by simp [toGo, main, htask]
      refine ⟨b.turn j u, hstep, turn_now b j u, hidle, ?_, ?_⟩
      · intro hself
        rw [hacting] at hself
        obtain rfl := Option.some.inj hself
        obtain ⟨hget, hready'⟩ := ready_of_firstReady? hfirst
        obtain rfl : u = t := Option.some.inj (hget.symm.trans here)
        obtain ⟨t', ht', hover'⟩ := over_of_turn here hpace hasked hbusy hready'
        have hend : (b.turn j u).isOver j = true := (isOver_of_task ht').trans hover'
        have hless : (b.turn j u).toGo j = 2 := by simp [toGo, hmain, hend]
        omega
      · intro hother
        have hne : j ≠ i := by
          rintro rfl
          exact hother hacting
        obtain ⟨t', ht', htouch⟩ := turn_of_ne (u := u) hne here
        have hgoing : (b.turn j u).isOver i = false :=
          (isOver_of_task ht').trans (htouch.going hover)
        have hsame : (b.turn j u).toGo i = 3 := by simp [toGo, hmain, hgoing]
        omega

/-- While the loop is in no round, a stop that has not returned can always go on. No time passes,
and each turn of the main routine and of the loop takes it nearer to its return. -/
theorem Stopping.prompt {period : Span} (hp : part.Lawful) (h : Stopping part i b t)
    (here : b.tasks[i]? = some t) (hpace : t.body.pace = .ticking period) (hbusy : t.busy = false)
    (hmain : b.main ≠ .ended ()) :
    ∃ b', b.step? = some b' ∧ b'.now = b.now ∧
      (b.mainActs = true ∨ b.acting? = some i → b'.toGo i < b.toGo i) ∧
      (b.mainActs = false → b.acting? ≠ some i → b'.toGo i = b.toGo i) := by
  have htask : b.isOver i = t.isOver := isOver_of_task here
  cases h with
  | asking main running task =>
      have hacts : b.mainActs = true := by simp [mainActs, main]
      obtain ⟨b', hstep⟩ : ∃ b', b.step? = some b' := ⟨_, step_of_ready main⟩
      obtain ⟨hnow, htask', hend⟩ := step_of_asking hp main running task here hstep
      refine ⟨b', hstep, hnow, fun _ => ?_, fun hidle => ?_⟩
      · rcases hend with ⟨hover, hended, _⟩ | ⟨hover, hjoining⟩
        · simp [toGo, hended, main, htask, hover]
        · have hgoing : b'.isOver i = false := (isOver_of_task htask').trans hover
          simp [toGo, hjoining, hgoing, main, htask, hover]
      · rw [hacts] at hidle
        cases hidle
  | joining main asked =>
      cases hover : t.isOver with
      | true =>
          have hend : b.isOver i = true := htask.trans hover
          have hacts : b.mainActs = true := by simp [mainActs, main, hend]
          refine ⟨_, step_of_joined main hend, rfl, fun _ => ?_, fun hidle => ?_⟩
          · have hend' : Schedule.isOver { b with main := .ready (Worker.leave part) } i = true :=
              hend
            simp only [toGo, main, hend, hend']
            decide
          · rw [hacts] at hidle
            cases hidle
      | false =>
          obtain ⟨b', hstep, hnow, hidle, hself, hother⟩ :=
            joining_prompt main here hpace asked hbusy hover
          refine ⟨b', hstep, hnow, ?_, fun _ => hother⟩
          rintro (hacts | hacting)
          · rw [hidle] at hacts
            cases hacts
          · exact hself hacting
  | leaving main _ ended =>
      have hend : b.isOver i = true := htask.trans ended
      have hacts : b.mainActs = true := by simp [mainActs, main]
      refine ⟨_, step_of_ready main, perform_now b none _, fun _ => ?_, fun hidle => ?_⟩
      · have htoGo : b.toGo i = 1 := by simp [toGo, main, hend]
        rw [htoGo]
        exact Nat.zero_lt_one
      · rw [hacts] at hidle
        cases hidle
  | returned main _ _ => exact absurd main hmain

/-! ## The course of a stop -/

/-- A stop starts no round, and at most the one that the loop is in still ends. -/
theorem Stopping.counts {period : Span} (hp : part.Lawful) (h : Stopping part i b t)
    (here : b.tasks[i]? = some t) (hstep : b.step? = some b') (after : b'.tasks[i]? = some t')
    (hmove : LoopMoves period i b b' t t') (l : Timeline) :
    (l.note t.busy t'.busy b'.now).starts = l.starts ∧
      (l.note t.busy t'.busy b'.now).ends.length + t'.busy.toNat
        = l.ends.length + t.busy.toNat := by
  cases h.moves hp here hstep with
  | asks task _ | finds task _ _ _ =>
      have ht' : t' = { t with cancelled := true } := Option.some.inj (after.symm.trans task)
      have hbusy : t'.busy = t.busy := by
        rw [ht']
        rfl
      rw [hbusy, Timeline.note_self]
      exact ⟨rfl, rfl⟩
  | waits asked _ | sees asked _ _ | returns asked _ _ _ | rests asked _ _ _ =>
      exact hmove.asked asked l

theorem not_busy_of_over (h : t.isOver = true) : t.busy = false := by
  cases hprogress : t.progress with
  | inRound phase => simp [Task.isOver, hprogress] at h
  | _ => simp [Task.busy, hprogress]

/-- A loop that has ended takes no turn. -/
theorem not_acting_of_over {s : Schedule σ α} (here : s.tasks[i]? = some t)
    (hover : t.isOver = true) : s.acting? ≠ some i := by
  intro hacting
  unfold acting? at hacting
  split at hacting
  · cases hacting
  · obtain ⟨⟨j, u⟩, hfirst, hj⟩ := Option.map_eq_some_iff.1 hacting
    obtain rfl : j = i := hj
    obtain ⟨hget, hready⟩ := ready_of_firstReady? hfirst
    obtain rfl : u = t := Option.some.inj (hget.symm.trans here)
    cases hprogress : u.progress with
    | beginning | between | idling => simp [Task.isOver, hprogress] at hover
    | inRound phase => simp [Task.isOver, hprogress] at hover
    | _ => simp [Task.isReady, hprogress] at hready

/-- Behind the end of a loop all that happens is what others do. -/
theorem still_of_over {others : σ → σ → Prop} (ho : Routine.Interference others)
    {a a' : Schedule σ α} {l : Timeline} {period : Span} (h : Course i others a l a')
    (here : a.tasks[i]? = some t) (hpace : t.body.pace = .ticking period)
    (hover : t.isOver = true) :
    l = {} ∧ a'.acting? ≠ some i ∧ others a.state a'.state := by
  have hidle : t.progress ≠ .idling := by
    intro hidle
    simp [Task.isOver, hidle] at hover
  have hinv := h.invariant here hidle hpace
    (motive := fun l b t => l = {} ∧ t.isOver = true ∧ others a.state b.state)
    ⟨rfl, hover, ho.refl a.state⟩ ?_
  · obtain ⟨u, hu, -, -, hl, hover', hothers⟩ := hinv
    exact ⟨hl, not_acting_of_over hu hover', hothers⟩
  rintro l b c u u' - hu - ⟨hl, hover', hothers⟩ - hamid - hmove
  have hstays := hmove.isOver hover'
  have hnext := hamid (not_acting_of_over hu hover')
  rw [not_busy_of_over hover', not_busy_of_over hstays, Timeline.note_self]
  exact ⟨hl, hstays, ho.trans hothers hnext⟩

end Schedule

end HomeEnergy
