import HomeEnergy.Bench.Controller
import HomeEnergy.Collector
import HomeEnergy.Listener
import HomeEnergy.Module

/-!
# A collector on the bench

The bench is closed: listeners can be opened, but no device, no controller and no database can be
reached, except for a controller in memory. What the collector does is seen from its events, its log
and the records that it hands over.

## Main results

* `World.isolated` — surroundings without anything that can be reached.
* `World.withMemory` — surroundings with a controller in memory.
-/

namespace HomeEnergy.Bench

open Routine (Part)

/-- A collector on the bench, and what is seen of it. -/
structure World where
  collector : Collector Unit := {}
  memory : Memory := {}
  /-- Connections and events, latest first. -/
  events : List (String × LinkEvent) := []
  /-- Latest first. -/
  log : List LogEntry := []
  /-- Whether preparing the place for records fails. -/
  prepareFails : Bool := false
  /-- Whether handing over a record fails. -/
  sinkFails : Bool := false
  /-- Records that were handed over, latest first. -/
  written : List Document := []

namespace World

/-- The collector. -/
def part : Part World (Collector Unit) :=
  ⟨World.collector, fun c w => { w with collector := c }⟩

/-- What becomes of an event on a bench that lists them. -/
def list (name : String) (e : LinkEvent) (w : World) : World :=
  { w with events := (name, e) :: w.events }

/-- What becomes of an event where the collector counts them. -/
def count (name : String) (e : LinkEvent) (w : World) : World :=
  { w with collector := { w.collector with metrics := w.collector.metrics.countEvent name e } }

/-- What becomes of a log line. -/
def note (e : LogEntry) (w : World) : World := { w with log := e :: w.log }

/-- What becomes of a request where nothing can be reached. -/
def lost (call : Http.Call) : Http.Loss :=
  if Url.isAskable call.url then .unreachable "no route" else .unsendable "malformed address"

/-- A controller at an address that cannot be reached. There is never a session with it. -/
def awayController (endpoint : String) : Controller World Unit :=
  let away {α : Type} : Routine World (Outcome α) :=
    pure (.error (.connectionFailed endpoint "no route"))
  ⟨away, fun _ _ _ => away, fun _ _ _ => away, fun _ _ _ => away, fun _ _ _ => away⟩

/-- A controller whose log tells of each attempt to connect to an address. -/
def noted (settings : ModbusSettings) (c : Controller World Unit) : Controller World Unit :=
  let trial := ⟨.debug, "homewatt_link::modbus",
    "Connecting to Modbus TCP server at " ++ settings.endpoint, []⟩
  if Url.isQuad settings.host then
    { c with connect := do
        .change (note trial)
        c.connect }
  else c

/-- A database that cannot be reached. -/
def awayDatabase : Store.Database World :=
  let away : Routine World (Except String Unit) := pure (.error "no route")
  ⟨fun _ => away, away, fun _ => away, away, away⟩

/-- Surroundings without anything that can be reached. -/
def isolated (database : Bool) (report : String → LinkEvent → World → World) :
    Surroundings World Unit where
  send _ call := pure (.error (lost call))
  controller settings := noted settings (awayController settings.endpoint)
  bind address := pure (Listener.opening address)
  database := if database then some awayDatabase else none
  report
  log := note

/-- Surroundings with a controller in memory. -/
def withMemory : Surroundings World Unit :=
  { isolated false list with
    controller := fun settings =>
      memoryController settings ⟨World.memory, fun m w => { w with memory := m }⟩ }

/-- A place for weather records that lists them, or fails as it is told. -/
def weatherSink : Sink World Weather.Record where
  prepare := do return if (← .look).prepareFails then .error (fault "persistence") else .ok ()
  write r := .changeTelling
    (fun w => if w.sinkFails then w else { w with written := r.toDocument :: w.written })
    fun w => if w.sinkFails then .error (fault "persistence") else .ok ()

/-- A collector with given settings, before anything has been done. -/
def start (s : CollectorSettings) : World := { collector := Collector.start s }

end World

/-! ## Runs -/

/-- What a run of a collector shows. -/
structure Run where
  built : List String
  ready : List String
  started : Nat
  startedAgain : Nat

/-- Make modules ready, start them twice and stop them. -/
def runModules {σ : Type} (modules : List (Module σ)) : Routine σ Run := do
  let ready ← Module.initAll (fun _ _ => .done ()) modules
  let started ← Module.startAll ready
  let startedAgain ← Module.startAll ready
  Module.abortAll ready
  return ⟨modules.map (·.name), ready.map (·.name), started, startedAgain⟩

end HomeEnergy.Bench
