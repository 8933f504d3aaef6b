import HomeEnergy.Routine
import HomeEnergy.Routine.Ticker

/-!
# Schedules

One main routine and any number of tasks take turns on one state. A routine runs until it has to
wait. When all of them wait, the clock moves on to the first instant at which one of them wakes. The
lock is given to those who wait for it in the order in which they came.

## Main results

* `Schedule.perform` — a routine runs until it has to wait.
* `Schedule.step?` — one turn, or one move of the clock.
* `Schedule.finish?` — the schedule until the main routine has ended.
-/

namespace HomeEnergy

open Routine (Part)

/-- When a task starts its rounds. -/
inductive Pace where
  /-- One round, and the task ends. -/
  | once
  /-- One round after the other. -/
  | steady
  /-- On the ticks of a ticker with a period. -/
  | ticking (period : Span)
  /-- Never: the task waits to be stopped. -/
  | idle
deriving DecidableEq, Repr

/-- What a task does: its rounds, and when they start. Between two rounds it looks whether it has
been asked to stop. -/
structure Body (σ : Type) where
  pace : Pace
  round : Routine σ Unit

/-- Where a routine is. -/
inductive Phase (σ α : Type) where
  /-- It can go on. -/
  | ready (p : Routine σ α)
  /-- It waits for an instant. -/
  | sleeping (wake : Nat) (p : Routine σ α)
  /-- It waits for the lock. -/
  | queued (p : Routine σ α)
  /-- It waits for a task to end. -/
  | joining (task : Nat) (p : Routine σ α)
  /-- It has ended. -/
  | ended (result : α)

/-- Where a task is. -/
inductive Progress (σ : Type) where
  /-- It has not begun. -/
  | dormant
  /-- It begins with its next turn. -/
  | beginning
  /-- It is in a round. -/
  | inRound (phase : Phase σ Unit)
  /-- It waits for its next tick. -/
  | between
  /-- It waits to be stopped. -/
  | idling
  /-- It has ended. -/
  | over

/-- A task. -/
structure Task (σ : Type) where
  body : Body σ
  progress : Progress σ := .dormant
  cancelled : Bool := false
  ticker : Ticker := ⟨0, 0⟩

/-- A state and all that works on it. -/
structure Schedule (σ α : Type) where
  /-- The time, in nanoseconds. -/
  now : Nat := 0
  state : σ
  main : Phase σ α
  tasks : List (Task σ) := []
  /-- Whether the lock is held. -/
  held : Bool := false
  /-- Those who wait for the lock, in the order in which they came; nothing stands for main. -/
  queue : List (Option Nat) := []

variable {σ α β : Type}

namespace Phase

/-- The lock has been given to a routine that waits for it. -/
def grant : Phase σ α → Phase σ α
  | queued p => ready p
  | phase => phase

/-- The instant at which a routine wakes, if it waits for one. -/
def wake? : Phase σ α → Option Nat
  | sleeping wake _ => some wake
  | _ => none

/-- An instant has come. -/
def awake (now : Nat) : Phase σ α → Phase σ α
  | sleeping wake p => if wake ≤ now then ready p else sleeping wake p
  | phase => phase

end Phase

namespace Task

/-- Whether there is nothing to wait for. -/
def isOver (t : Task σ) : Bool :=
  match t.progress with
  | .dormant | .over => true
  | _ => false

/-- Whether a task can go on. -/
def isReady (t : Task σ) (now : Nat) : Bool :=
  match t.progress with
  | .beginning | .inRound (.ready _) | .inRound (.ended _) => true
  | .between => t.cancelled || t.ticker.isDue now
  | .idling => t.cancelled
  | _ => false

/-- The instant at which a task wakes, if it waits for one. -/
def wake? (t : Task σ) : Option Nat :=
  match t.progress with
  | .inRound phase => phase.wake?
  | .between => some (Ticker.fireAt t.ticker.deadline)
  | _ => none

/-- An instant has come. -/
def awake (now : Nat) (t : Task σ) : Task σ :=
  match t.progress with
  | .inRound phase => { t with progress := .inRound (phase.awake now) }
  | _ => t

/-- The lock has been given to a task that waits for it. -/
def grant (t : Task σ) : Task σ :=
  match t.progress with
  | .inRound phase => { t with progress := .inRound phase.grant }
  | _ => t

/-- A task begins a round, waits for one, or ends. -/
def proceed (now : Nat) (t : Task σ) : Task σ :=
  if t.cancelled then { t with progress := .over }
  else
    match t.body.pace with
    | .once | .steady => { t with progress := .inRound (.ready t.body.round) }
    | .idle => { t with progress := .idling }
    | .ticking _ =>
      if t.ticker.isDue now then
        { t with progress := .inRound (.ready t.body.round), ticker := t.ticker.next now }
      else { t with progress := .between }

/-- A task begins. A ticker without a period is none. A task of one round begins it even if it has
been asked to stop. -/
def begin (now : Nat) (t : Task σ) : Task σ :=
  match t.body.pace with
  | .once => { t with progress := .inRound (.ready t.body.round) }
  | .ticking period =>
    if period.nanos = 0 then { t with progress := .over }
    else proceed now { t with ticker := .start period now }
  | _ => t.proceed now

/-- A round has ended. -/
def endRound (now : Nat) (t : Task σ) : Task σ :=
  match t.body.pace with
  | .once => { t with progress := .over }
  | _ => t.proceed now

end Task

namespace Schedule

/-- Change one task. -/
def onTask (s : Schedule σ α) (task : Nat) (f : Task σ → Task σ) : Schedule σ α :=
  { s with tasks := s.tasks.modify task f }

/-- Whether a task has ended or never begun. -/
def isOver (s : Schedule σ α) (task : Nat) : Bool := (s.tasks[task]?.map Task.isOver).getD true

/-- Give the lock back. The first who waits for it gets it. -/
def unlock (s : Schedule σ α) : Schedule σ α :=
  match s.queue with
  | [] => { s with held := false }
  | none :: rest => { s with main := s.main.grant, queue := rest }
  | some task :: rest => { s.onTask task Task.grant with queue := rest }

/-- A routine runs until it has to wait or ends. `me` is who it is. -/
def perform (s : Schedule σ α) (me : Option Nat) : Routine σ β → Schedule σ α × Phase σ β
  | .done b => (s, .ended b)
  | .act change next => perform { s with state := change s.state } me (next s.state)
  | .clock next => perform s me (next s.now)
  | .sleep d next =>
    let wake := Ticker.fireAt (s.now + d.nanos)
    if wake ≤ s.now then perform s me next else (s, .sleeping wake next)
  | .acquire next =>
    if s.held then ({ s with queue := s.queue ++ [me] }, .queued next)
    else perform { s with held := true } me next
  | .release next => perform s.unlock me next
  | .launch task next => perform (s.onTask task ({ · with progress := .beginning })) me next
  | .cancel task next => perform (s.onTask task ({ · with cancelled := true })) me next
  | .join task next => if s.isOver task then perform s me next else (s, .joining task next)

/-- One turn of a task that can go on. -/
def turn (s : Schedule σ α) (task : Nat) (t : Task σ) : Schedule σ α :=
  match t.progress with
  | .beginning => s.onTask task (Task.begin s.now)
  | .inRound (.ready p) =>
    let (s, phase) := s.perform (some task) p
    s.onTask task fun t => { t with progress := .inRound phase }
  | .inRound (.ended _) => s.onTask task (Task.endRound s.now)
  | _ => s.onTask task (Task.proceed s.now)

/-- The first task that can go on. -/
def firstReady? (s : Schedule σ α) : Option (Nat × Task σ) :=
  s.tasks.zipIdx.findSome? fun (t, i) => if t.isReady s.now then some (i, t) else none

/-- The first instant at which someone wakes. -/
def nextWake? (s : Schedule σ α) : Option Nat :=
  (s.main.wake?.toList ++ s.tasks.filterMap Task.wake?).min?

/-- The clock moves on. -/
def advance (s : Schedule σ α) (instant : Nat) : Schedule σ α :=
  let now := max s.now instant
  { s with now, main := s.main.awake now, tasks := s.tasks.map (Task.awake now) }

/-- One turn, of the main routine first, or one move of the clock if nobody can go on. -/
def step? (s : Schedule σ α) : Option (Schedule σ α) :=
  let others : Option (Schedule σ α) :=
    match s.firstReady? with
    | some (i, t) => some (s.turn i t)
    | none => s.nextWake?.map s.advance
  match s.main with
  | .ready p =>
    let (s, main) := s.perform none p
    some { s with main }
  | .joining task p => if s.isOver task then some { s with main := .ready p } else others
  | _ => others

/-- The schedule until the main routine has ended, with its result; nothing if that takes too many
steps or never comes. -/
def finish? : Nat → Schedule σ α → Option (α × Schedule σ α)
  | 0, _ => none
  | fuel + 1, s =>
    match s.main with
    | .ended a => some (a, s)
    | _ => s.step?.bind (finish? fuel)

/-- Give the main routine something to do. -/
def assign (s : Schedule σ α) (p : Routine σ α) : Schedule σ α := { s with main := .ready p }

/-- Take in a task; its number is told. -/
def enrol (s : Schedule σ α) (body : Body σ) : Schedule σ α × Nat :=
  ({ s with tasks := s.tasks ++ [{ body }] }, s.tasks.length)

/-- The time in whole milliseconds. -/
def millis (s : Schedule σ α) : Nat := s.now / Span.perMilli

end Schedule

end HomeEnergy
