import HomeEnergy.Cache
import HomeEnergy.Metrics
import HomeEnergy.Module.Worker
import HomeEnergy.Routine.Schedule

/-!
# Polling and updating

A poller asks a device for a record again and again, keeps the latest one in the cache and hands
every one to a sink. An updater carries something from the cache to a device again and again.
Nothing that goes wrong in a round ends the rounds.

## Main results

* `Poller.cycle` — one query, with its record cached and handed on.
* `Updater.cycle` — one application of an action.
* `Poller.body`, `Updater.body` — the rounds, on the ticks of a ticker.
-/

namespace HomeEnergy

open Routine (Part)

/-- What all modules of a collector share. -/
structure Ledger (σ : Type) where
  cache : Part σ Cache
  metrics : Part σ Metrics

/-- A device that is asked for records. -/
structure Source (σ ρ : Type) where
  name : String
  init : Routine σ (Outcome Unit)
  query : Routine σ (Outcome ρ)

/-- A place that records are handed to. -/
structure Sink (σ ρ : Type) where
  /-- Make the place ready; that may be repeated. -/
  prepare : Routine σ (Outcome Unit)
  write : ρ → Routine σ (Outcome Unit)

/-- Something that is done to a device with what is in the cache. -/
structure Action (σ : Type) where
  name : String
  init : Routine σ (Outcome Unit)
  apply : Routine σ (Outcome Unit)

/-- Something that is asked for records. -/
structure Poller (σ ρ : Type) where
  source : Source σ ρ
  sink : Sink σ ρ
  ledger : Ledger σ
  /-- The document of a record, if there is one. -/
  write : ρ → Outcome Document
  interval : Span
  worker : Part σ Worker
  /-- The number of its task. -/
  task : Nat

/-- An action that is repeated. -/
structure Updater (σ : Type) where
  action : Action σ
  ledger : Ledger σ
  interval : Span
  worker : Part σ Worker
  /-- The number of its task. -/
  task : Nat

variable {σ ρ : Type}

/-- A place that drops what it is handed. -/
def Sink.discard : Sink σ ρ := ⟨pure (.ok ()), fun _ => pure (.ok ())⟩

namespace Ledger

/-- Count a query. -/
def count (l : Ledger σ) (name : String) (r : QueryResult) : Routine σ Unit :=
  .change (l.metrics.modify (·.countQuery name r))

/-- Put a record into the cache, if it can be written. -/
def store (l : Ledger σ) (name : String) (document : Outcome Document) :
    Routine σ (Outcome Unit) :=
  match document with
  | .error f => pure (.error f)
  | .ok d => do
    .change (l.cache.modify (·.put name (Json.bytes d)))
    return .ok ()

end Ledger

namespace Poller

/-- One query. It counts as a success as soon as there is a record, whatever becomes of it. -/
def cycle (p : Poller σ ρ) : Routine σ (Outcome Unit) := do
  match ← p.source.query with
  | .error f =>
    p.ledger.count p.source.name .failure
    return .error f
  | .ok record =>
    p.ledger.count p.source.name .success
    match ← p.ledger.store p.source.name (p.write record) with
    | .error f => return .error f
    | .ok () => p.sink.write record

/-- The rounds. -/
def body (p : Poller σ ρ) : Body σ := ⟨.ticking p.interval, do let _ ← p.cycle⟩

/-- Make the sink and the device ready, in this order. -/
def init (p : Poller σ ρ) : Routine σ (Outcome Unit) := do
  match ← p.sink.prepare with
  | .error f => return .error f
  | .ok () =>
    match ← p.source.init with
    | .error f => return .error f
    | .ok () =>
      .change (p.worker.modify Worker.markInitialized)
      return .ok ()

/-- Start the rounds. -/
def start (p : Poller σ ρ) : Routine σ (Outcome Unit) := Worker.start p.worker p.task

/-- Stop the rounds; one that has begun is finished. -/
def abort (p : Poller σ ρ) : Routine σ Unit := Worker.abort p.worker

/-- Wait for the end of the rounds. -/
def wait (p : Poller σ ρ) : Routine σ Unit := Worker.wait p.worker

end Poller

namespace Updater

/-- One application of the action. -/
def cycle (u : Updater σ) : Routine σ (Outcome Unit) := do
  match ← u.action.apply with
  | .error f =>
    u.ledger.count u.action.name .failure
    return .error f
  | .ok () =>
    u.ledger.count u.action.name .success
    return .ok ()

/-- The rounds. -/
def body (u : Updater σ) : Body σ := ⟨.ticking u.interval, do let _ ← u.cycle⟩

/-- Make the device ready. -/
def init (u : Updater σ) : Routine σ (Outcome Unit) := do
  match ← u.action.init with
  | .error f => return .error f
  | .ok () =>
    .change (u.worker.modify Worker.markInitialized)
    return .ok ()

/-- Start the rounds. -/
def start (u : Updater σ) : Routine σ (Outcome Unit) := Worker.start u.worker u.task

/-- Stop the rounds; one that has begun is finished. -/
def abort (u : Updater σ) : Routine σ Unit := Worker.abort u.worker

/-- Wait for the end of the rounds. -/
def wait (u : Updater σ) : Routine σ Unit := Worker.wait u.worker

end Updater

end HomeEnergy
