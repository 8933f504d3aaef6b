import HomeEnergy.Collector.Receiver
import HomeEnergy.Store
import HomeEnergy.Store.Record

/-!
# The collector

The modules of a collector follow from its settings: one for each device, in a fixed order, and one
more for the room temperature if the heating controller takes it. What they share and what they know
is one state. The world around them is what they send to, listen at and store in.

## Main results

* `Collector.modules` — the modules of given settings.
* `Collector.name_modules` — their names.
* `Collector.start` — the state in which a collector starts.
-/

namespace HomeEnergy

open Routine (Part)

/-- The state of a collector. -/
structure Collector (S : Type) where
  cache : Cache := .empty
  metrics : Metrics := .empty
  powerFlow : HttpStatus := {}
  storage : HttpStatus := {}
  battery : HttpStatus := {}
  stove : HttpStatus := {}
  heating : ModbusStatus S := {}
  /-- Whether the receiver has an open listener that no task has taken over. -/
  listening : Bool := false
  inverterWorker : Worker := { name := "" }
  batteryWorker : Worker := { name := "" }
  stoveWorker : Worker := { name := "" }
  heatingWorker : Worker := { name := "" }
  roomsWorker : Worker := { name := "" }
  weatherWorker : Worker := { name := "" }

/-- What is around a collector. -/
structure Surroundings (σ S : Type) where
  /-- Send a request over a connection. -/
  send : HttpSettings → Http.Call → Routine σ (Except Http.Loss Http.Answer)
  /-- The controller behind a connection. -/
  controller : ModbusSettings → Controller σ S
  /-- Open a listener at an address. -/
  bind : String → Routine σ (Outcome Unit)
  database : Option (Store.Database σ)
  /-- What becomes of an event of a connection. -/
  report : String → LinkEvent → σ → σ
  /-- What becomes of a log line. -/
  log : LogEntry → σ → σ := fun _ s => s

namespace Collector

variable {σ S : Type}

/-- The state in which a collector starts. -/
def start (s : CollectorSettings) : Collector S :=
  let worker (name : Option String) : Worker := { name := name.getD "" }
  { inverterWorker := worker (s.inverter.map (·.name))
    batteryWorker := worker (s.battery.map (·.name))
    stoveWorker := worker (s.stove.map (·.name))
    heatingWorker := worker (s.heating.map (·.name))
    roomsWorker := worker ((s.heating.bind (·.rooms)).map (·.name))
    weatherWorker := worker (s.weather.map (·.name)) }

/-! ## Parts of the state -/

/-- What the modules share. -/
def ledger (part : Part σ (Collector S)) : Ledger σ where
  cache := part.inner ⟨Collector.cache, fun v c => { c with cache := v }⟩
  metrics := part.inner ⟨Collector.metrics, fun v c => { c with metrics := v }⟩

/-- An HTTP connection. -/
def httpLink (around : Surroundings σ S) (settings : HttpSettings) (status : Part σ HttpStatus) :
    HttpLink σ where
  settings
  send := around.send settings
  status
  report := around.report settings.name
  log := around.log

/-- The connection to the heating controller. -/
def heatingLink (part : Part σ (Collector S)) (around : Surroundings σ S) (s : HeatingSettings) :
    ModbusLink σ S where
  settings := s.link
  controller := around.controller s.link
  status := part.inner ⟨Collector.heating, fun v c => { c with heating := v }⟩
  report := around.report s.name
  log := around.log

/-! ## Modules -/

/-- The module of the inverter. -/
def inverterPoller (part : Part σ (Collector S)) (around : Surroundings σ S)
    (s : InverterSettings) (task : Nat) : Poller σ Inverter.Record where
  source := Inverter.source s.name
    (httpLink around s.powerFlow
      (part.inner ⟨Collector.powerFlow, fun v c => { c with powerFlow := v }⟩))
    (httpLink around s.storage
      (part.inner ⟨Collector.storage, fun v c => { c with storage := v }⟩))
  sink := Inverter.table.place around.database
  ledger := ledger part
  write r := .ok r.toDocument
  interval := s.pollInterval
  worker := part.inner ⟨Collector.inverterWorker, fun v c => { c with inverterWorker := v }⟩
  task

/-- The module of the battery. -/
def batteryPoller (part : Part σ (Collector S)) (around : Surroundings σ S)
    (s : BatterySettings) (task : Nat) : Poller σ Battery.Record where
  source := Battery.source s.name (httpLink around s.link
    (part.inner ⟨Collector.battery, fun v c => { c with battery := v }⟩))
  sink := Battery.table.place around.database
  ledger := ledger part
  write r := .ok r.toDocument
  interval := s.pollInterval
  worker := part.inner ⟨Collector.batteryWorker, fun v c => { c with batteryWorker := v }⟩
  task

/-- The module of the stove. -/
def stovePoller (part : Part σ (Collector S)) (around : Surroundings σ S)
    (s : StoveSettings) (task : Nat) : Poller σ Stove.Record where
  source := Stove.source s.name (httpLink around s.link
    (part.inner ⟨Collector.stove, fun v c => { c with stove := v }⟩))
  sink := Stove.table.place around.database
  ledger := ledger part
  write r := .ok r.toDocument
  interval := s.pollInterval
  worker := part.inner ⟨Collector.stoveWorker, fun v c => { c with stoveWorker := v }⟩
  task

/-- The module of the heating controller. -/
def heatingPoller (part : Part σ (Collector S)) (around : Surroundings σ S)
    (s : HeatingSettings) (task : Nat) : Poller σ Heating.Record where
  source := Heating.source s.name (heatingLink part around s)
  sink := Heating.table.place around.database
  ledger := ledger part
  write r := .ok r.toDocument
  interval := s.pollInterval
  worker := part.inner ⟨Collector.heatingWorker, fun v c => { c with heatingWorker := v }⟩
  task

/-- The module of the room temperature. It shares the connection of the heating controller. -/
def roomsUpdater (part : Part σ (Collector S)) (around : Surroundings σ S)
    (s : HeatingSettings) (rooms : RoomSettings) (task : Nat) : Updater σ where
  action := Heating.rooms rooms (heatingLink part around s) (ledger part).cache
  ledger := ledger part
  interval := rooms.pollInterval
  worker := part.inner ⟨Collector.roomsWorker, fun v c => { c with roomsWorker := v }⟩
  task

/-- The receiver of the weather. -/
def receiver (part : Part σ (Collector S)) (around : Surroundings σ S)
    (s : WeatherSettings) (task : Nat) : Receiver σ where
  settings := s
  sink := Weather.table.place around.database
  ledger := ledger part
  bind := around.bind
  listening := part.inner ⟨Collector.listening, fun v c => { c with listening := v }⟩
  worker := part.inner ⟨Collector.weatherWorker, fun v c => { c with weatherWorker := v }⟩
  task

/-- The modules of given settings, from the numbers of their tasks on. -/
def makers (part : Part σ (Collector S)) (around : Surroundings σ S) (s : CollectorSettings) :
    List (Nat → Module σ) :=
  s.inverter.toList.map (fun d task => (inverterPoller part around d task).toModule)
    ++ s.battery.toList.map (fun d task => (batteryPoller part around d task).toModule)
    ++ s.stove.toList.map (fun d task => (stovePoller part around d task).toModule)
    ++ s.heating.toList.flatMap (fun d =>
      (fun task => (heatingPoller part around d task).toModule)
        :: d.rooms.toList.map fun r task => (roomsUpdater part around d r task).toModule)
    ++ s.weather.toList.map (fun d task => (receiver part around d task).toModule)

/-- The modules of given settings. Each has the number of its place as that of its task. -/
def modules (part : Part σ (Collector S)) (around : Surroundings σ S) (s : CollectorSettings) :
    List (Module σ) :=
  (makers part around s).zipIdx.map fun (make, task) => make task

private theorem map_name_zipIdx {makers : List (Nat → Module σ)} (first : Nat)
    (h : ∀ make ∈ makers, ∀ task, (make task).name = (make 0).name) :
    ((makers.zipIdx first).map fun p => (p.1 p.2).name) = makers.map fun make => (make 0).name := by
  induction makers generalizing first with
  | nil => rfl
  | cons make rest ih =>
    simp only [List.zipIdx_cons, List.map_cons]
    rw [ih (first + 1) fun m hm => h m (List.mem_cons_of_mem _ hm), h make List.mem_cons_self]

theorem name_modules (part : Part σ (Collector S)) (around : Surroundings σ S)
    (s : CollectorSettings) : (modules part around s).map (·.name) = s.names := by
  rw [modules, List.map_map]
  refine (map_name_zipIdx 0 ?_).trans ?_
  · intro make hmake task
    simp only [makers, List.mem_append, List.mem_map, List.mem_flatMap, List.mem_cons] at hmake
    rcases hmake with (((⟨_, _, rfl⟩ | ⟨_, _, rfl⟩) | ⟨_, _, rfl⟩) | ⟨_, _, rfl | ⟨_, _, rfl⟩⟩) |
      ⟨_, _, rfl⟩ <;> rfl
  · simp only [makers, CollectorSettings.names, List.map_append, List.map_map, List.map_flatMap,
      List.map_cons]
    rfl

end Collector

end HomeEnergy
