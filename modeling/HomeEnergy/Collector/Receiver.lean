import HomeEnergy.Collector.Query
import HomeEnergy.Listener
import HomeEnergy.Module
import HomeEnergy.Text.Percent

/-!
# The receiver of weather uploads

A station sends its readings as parameters in requests. The receiver opens a listener when it is
made ready and answers requests while its task runs; each upload is cached and handed on.

## Main results

* `Receiver.accept` — one upload.
* `Receiver.answer` — the status that answers a request.
* `Receiver.toModule` — the life of the receiver.
-/

namespace HomeEnergy

open Routine (Part)

/-- The receiver. -/
structure Receiver (σ : Type) where
  settings : WeatherSettings
  sink : Sink σ Weather.Record
  ledger : Ledger σ
  /-- Open a listener at an address. -/
  bind : String → Routine σ (Outcome Unit)
  /-- Whether a listener is open that no task has taken over yet. -/
  listening : Part σ Bool
  worker : Part σ Worker
  /-- The number of its task. -/
  task : Nat

namespace Receiver

variable {σ : Type}

/-- The record of an upload, in the cache. -/
def keep (r : Receiver σ) (params : Weather.Parameters) : Routine σ (Outcome Weather.Record) := do
  match Weather.observe (← moment) params with
  | .error f => return .error f
  | .ok record =>
    match ← r.ledger.store r.settings.name (.ok record.toDocument) with
    | .error f => return .error f
    | .ok () => return .ok record

/-- One upload. It is accepted as soon as it is in the cache, whatever the sink makes of it. -/
def accept (r : Receiver σ) (params : Weather.Parameters) : Routine σ (Outcome Unit) := do
  match ← r.keep params with
  | .error f =>
    r.ledger.count r.settings.name .failure
    return .error f
  | .ok record =>
    let _ ← r.sink.write record
    r.ledger.count r.settings.name .success
    return .ok ()

/-- The parameters of a query. Of several of one name the last counts. -/
def parameters (query : String) : Weather.Parameters :=
  Percent.form query

/-- The status that answers a request of any method to any path. -/
def answer (r : Receiver σ) (query : String) : Routine σ Nat := do
  match ← r.accept (parameters query) with
  | .ok () => return 200
  | .error _ => return 500

/-- Make the sink ready and open the listener, unless it is open. -/
def init (r : Receiver σ) : Routine σ (Outcome Unit) := do
  match ← r.sink.prepare with
  | .error f => return .error f
  | .ok () =>
    let opened ← if r.listening.get (← .look) then pure (.ok ()) else r.bind r.settings.listen
    match opened with
    | .error f => return .error f
    | .ok () =>
      .change (r.listening.set true)
      .change (r.worker.modify Worker.markInitialized)
      return .ok ()

/-- Start answering. The task takes the listener over. -/
def start (r : Receiver σ) : Routine σ (Outcome Unit) := do
  match (r.worker.get (← .look)).startable with
  | .error f => return .error f
  | .ok () =>
    if !r.listening.get (← .look) then return .error (.notInitialized r.settings.name)
    .change (r.listening.set false)
    Worker.start r.worker r.task

/-- The receiver as a module. Its task answers until it is asked to stop. -/
def toModule (r : Receiver σ) : Module σ where
  name := r.settings.name
  init := r.init
  start := r.start
  abort := Worker.abort r.worker
  wait := Worker.wait r.worker
  worker := r.worker
  body := ⟨.idle, .done ()⟩
  greeting := ⟨.info, "collector::devices::weather",
    "Listening for weather uploads on " ++ Listener.shown r.settings.listen,
    [⟨"module", r.settings.name, false⟩]⟩

end Receiver

end HomeEnergy
