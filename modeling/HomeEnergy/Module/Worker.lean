import HomeEnergy.Fault
import HomeEnergy.Routine
import HomeEnergy.Text.Quoted

/-!
# Workers

A module owns at most one task. It is made ready, started once, and stopped for good; its state
never goes back.

## Main results

* `Worker.startable_eq_ok_iff` — a worker starts exactly from the state that initialization leaves.
* `Worker.start`, `Worker.abort`, `Worker.wait` — the life of a worker.
-/

namespace HomeEnergy

open Routine (Part)

/-- The state of a module. -/
inductive ModuleState where
  | constructed
  | initialized
  | running
  /-- It has been asked to stop and has not done so yet. -/
  | aborting
  | stopped
deriving DecidableEq, Repr, Inhabited

namespace ModuleState

/-- The word for a state. -/
def name : ModuleState → String
  | constructed => "constructed"
  | initialized => "initialized"
  | running => "running"
  | aborting => "aborting"
  | stopped => "stopped"

/-- The name of a state in descriptions. -/
def description : ModuleState → String
  | constructed => "Constructed"
  | initialized => "Initialized"
  | running => "Running"
  | aborting => "Aborting"
  | stopped => "Stopped"

/-- All states, in the order of a module's life. -/
def all : List ModuleState := [constructed, initialized, running, aborting, stopped]

/-- The place of a state in the order of a module's life. -/
def rank : ModuleState → Nat
  | constructed => 0
  | initialized => 1
  | running => 2
  | aborting => 3
  | stopped => 4

end ModuleState

/-- What a module knows of its task. -/
structure Worker where
  name : String
  state : ModuleState := .constructed
  /-- The task, from its start until it has been waited for. -/
  task : Option Nat := none
deriving DecidableEq, Repr, Inhabited

namespace Worker

/-- The module is ready to start. That counts only once. -/
def markInitialized (w : Worker) : Worker :=
  if w.state = .constructed then { w with state := .initialized } else w

/-- Whether a worker may start, or why not. -/
def startable (w : Worker) : Outcome Unit :=
  match w.state with
  | .initialized => .ok ()
  | .constructed => .error (.notInitialized w.name)
  | s => .error (.internal (w.name ++ " cannot start while " ++ s.name))

theorem startable_eq_ok_iff {w : Worker} : w.startable = .ok () ↔ w.state = .initialized := by
  unfold startable
  split <;> simp_all

/-- How a worker is described. -/
def description (w : Worker) : String :=
  "Worker \x7b name: " ++ Text.quoted w.name ++ ", state: " ++ w.state.description ++ " \x7d"

variable {σ : Type}

/-- Start a task, if the worker may. -/
def start (part : Part σ Worker) (task : Nat) : Routine σ (Outcome Unit) := do
  match (part.get (← .look)).startable with
  | .error f => return .error f
  | .ok () =>
    .launch task (.done ())
    .change (part.modify ({ · with state := .running, task := some task }))
    return .ok ()

/-- Wait until the task, if there is one, has ended. -/
def wait (part : Part σ Worker) : Routine σ Unit := do
  match (part.get (← .look)).task with
  | some task => .join task (.done ())
  | none => pure ()
  .change (part.modify ({ · with state := .stopped, task := none }))

/-- Ask the task to stop and wait until it has ended. -/
def abort (part : Part σ Worker) : Routine σ Unit := do
  let w := part.get (← .look)
  if w.state = .stopped then return
  .change (part.modify ({ · with state := .aborting }))
  match w.task with
  | some task => .cancel task (.done ())
  | none => pure ()
  wait part

end Worker

end HomeEnergy
