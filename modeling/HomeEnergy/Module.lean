import HomeEnergy.Log.Entry
import HomeEnergy.Module.Poller
import HomeEnergy.Span.Text

/-!
# Modules

A collector consists of modules, each with one task. They are made ready one by one, and those that
cannot be made ready are left out; the others are started and stopped together.

## Main results

* `Module.initAll` — the modules that could be made ready, in their order.
* `Module.startAll` — how many modules could be started.
* `Module.abortAll` — all tasks are asked to stop and waited for, in their order.
-/

namespace HomeEnergy

open Routine (Part)

/-- A module. -/
structure Module (σ : Type) where
  name : String
  init : Routine σ (Outcome Unit)
  start : Routine σ (Outcome Unit)
  abort : Routine σ Unit
  wait : Routine σ Unit
  worker : Part σ Worker
  /-- What its task does. -/
  body : Body σ
  /-- What its task tells when it begins. -/
  greeting : LogEntry

variable {σ ρ : Type}

/-- A poller as a module. -/
def Poller.toModule (p : Poller σ ρ) : Module σ where
  name := p.source.name
  init := p.init
  start := p.start
  abort := p.abort
  wait := p.wait
  worker := p.worker
  body := p.body
  greeting := ⟨.info, "collector::polling", "Polling every " ++ p.interval.brief,
    [⟨"module", p.source.name, false⟩]⟩

/-- An updater as a module. -/
def Updater.toModule (u : Updater σ) : Module σ where
  name := u.action.name
  init := u.init
  start := u.start
  abort := u.abort
  wait := u.wait
  worker := u.worker
  body := u.body
  greeting := ⟨.info, "collector::updater", "Updating every " ++ u.interval.brief,
    [⟨"updater", u.action.name, false⟩]⟩

namespace Module

/-- A log line about the life of a module. -/
def lifeLine (m : Module σ) (level : LogLevel) (what : String) : LogEntry :=
  ⟨level, "collector::lifecycle", "[" ++ m.name ++ "] " ++ what, []⟩

/-- A module that logs its life. -/
def logged (m : Module σ) (log : LogEntry → σ → σ) : Module σ :=
  let note (level : LogLevel) (what : String) : Routine σ Unit :=
    .change (log (m.lifeLine level what))
  { m with
    start := do
      match ← m.start with
      | .error f => return .error f
      | .ok () =>
        note .info "started"
        .change (log m.greeting)
        return .ok ()
    abort := do
      if (m.worker.get (← .look)).state = .stopped then return
      m.abort
      note .debug "worker joined"
      note .info "stopped"
    wait := do
      m.wait
      note .debug "worker joined" }

/-- Make modules ready, one after the other. Those that could be are told; what becomes of one has
no influence on the others. A fault is reported. -/
def initAll (report : Module σ → Fault → Routine σ Unit) :
    List (Module σ) → Routine σ (List (Module σ))
  | [] => pure []
  | m :: rest => do
    match ← m.init with
    | .ok () => return m :: (← initAll report rest)
    | .error f =>
      report m f
      initAll report rest

/-- Start modules, one after the other, and count those that started. -/
def startAll : List (Module σ) → Routine σ Nat
  | [] => pure 0
  | m :: rest => do
    match ← m.start with
    | .ok () => return (← startAll rest) + 1
    | .error _ => startAll rest

/-- Stop modules, one after the other. -/
def abortAll : List (Module σ) → Routine σ Unit
  | [] => pure ()
  | m :: rest => do
    m.abort
    abortAll rest

end Module

end HomeEnergy
