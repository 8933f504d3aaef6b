import HomeEnergy.Device.Sources
import HomeEnergy.Fault
import HomeEnergy.Timestamp

/-!
# The inverter

A Fronius inverter with a battery answers two requests with JSON documents: one about the flow of
power at the site and one about the battery. Numbers that are absent or no numbers count as zero;
only the sections that hold them are required.

## Main results

* `Inverter.readPowerFlow`, `Inverter.readStorage` — what the two answers say.
-/

namespace HomeEnergy.Inverter

/-- The name of the device in messages. -/
def device : String := "fronius"

/-- Power at the site in watts. -/
structure Power where
  /-- Positive while the house consumes. -/
  house : Float
  pv : Float
  /-- Positive while importing. -/
  grid : Float
  /-- Positive while discharging. -/
  battery : Float

/-- The output of one inverter. -/
structure Output where
  id : String
  power : Float
  frequency : Float

/-- What the answer about the flow of power says. -/
structure PowerFlow where
  power : Power
  sources : EnergySources
  inverters : List Output

/-- The state of the battery. -/
structure Storage where
  charge : Float
  current : Float
  temperature : Float
  voltage : Float

/-- One reading of the device. -/
structure Record where
  time : Timestamp
  flow : PowerFlow
  storage : Storage

/-- The member of a section as a number; zero when it is none. -/
def number (section_ : Document) (key : String) : Float :=
  ((section_.get? key).bind Document.number?).getD 0.0

/-- The section that holds the data of an answer. -/
def dataSection (answer : Document) : Outcome Document :=
  match answer.get? "Body" with
  | none => .error (.protocol device "unexpected JSON (no Body)")
  | some body =>
    match body.get? "Data" with
    | none => .error (.protocol device "unexpected JSON (no Body.Data)")
    | some data => .ok data

/-- The inverters of a section: the members that are maps, in ascending order of their names. -/
def outputs (inverters : Document) : List Output :=
  match inverters.sorted with
  | .map members => members.filterMap fun (id, d) =>
    match d with
    | .map _ => some ⟨id, number d "P", number d "FREQ"⟩
    | _ => none
  | _ => []

/-- Read the answer about the flow of power. The load is reported negative while the house
consumes. -/
def readPowerFlow (answer : Document) : Outcome PowerFlow := do
  let data ← dataSection answer
  match data.get? "Site" with
  | none => .error (.protocol device "unexpected JSON (no Body.Data.Site)")
  | some site =>
    let power : Power :=
      { house := -number site "P_Load"
        pv := number site "P_PV"
        grid := number site "P_Grid"
        battery := number site "P_Akku" }
    return {
      power
      sources := EnergySources.split power.grid (-power.battery)
      inverters := ((data.get? "Inverters").map outputs).getD [] }

/-- Read the answer about the battery. -/
def readStorage (answer : Document) : Outcome Storage := do
  let data ← dataSection answer
  match data.get? "0" with
  | none => .error (.protocol device "no storage device 0")
  | some store =>
    match store.get? "Controller" with
    | none => .error (.protocol device "storage device 0 has no Controller")
    | some controller =>
      return {
        charge := number controller "StateOfCharge_Relative"
        current := number controller "Current_DC"
        temperature := number controller "Temperature_Cell"
        voltage := number controller "Voltage_DC" }

/-! ## Records as documents -/

/-- The document of the powers. -/
def Power.toDocument (p : Power) : Document :=
  .map [("house_consumption", .float p.house), ("pv", .float p.pv), ("grid", .float p.grid),
    ("battery", .float p.battery)]

/-- The document of an inverter. -/
def Output.toDocument (o : Output) : Document :=
  .map [("id", .text o.id), ("power", .float o.power), ("frequency", .float o.frequency)]

/-- The document of the battery's state. -/
def Storage.toDocument (s : Storage) : Document :=
  .map [("soc", .float s.charge), ("current", .float s.current),
    ("temperature", .float s.temperature), ("voltage", .float s.voltage)]

/-- The document of a reading. -/
def Record.toDocument (r : Record) : Document :=
  .map [("timestamp", .text r.time.render), ("power", r.flow.power.toDocument),
    ("sources", r.flow.sources.toDocument),
    ("inverters", .list (r.flow.inverters.map Output.toDocument)),
    ("storage", r.storage.toDocument)]

/-- The powers that a document gives. -/
def Power.ofDocument (d : Document) : Option Power := do
  let [house, pv, grid, battery] ←
    d.fields? .refused ["house_consumption", "pv", "grid", "battery"] | none
  return {
    house := ← Document.required Document.number? house
    pv := ← Document.required Document.number? pv
    grid := ← Document.required Document.number? grid
    battery := ← Document.required Document.number? battery }

/-- The inverter that a document gives. -/
def Output.ofDocument (d : Document) : Option Output := do
  let [id, power, frequency] ← d.fields? .refused ["id", "power", "frequency"] | none
  return {
    id := ← Document.required Document.text? id
    power := ← Document.required Document.number? power
    frequency := ← Document.required Document.number? frequency }

/-- The battery's state that a document gives. -/
def Storage.ofDocument (d : Document) : Option Storage := do
  let [charge, current, temperature, voltage] ←
    d.fields? .refused ["soc", "current", "temperature", "voltage"] | none
  return {
    charge := ← Document.required Document.number? charge
    current := ← Document.required Document.number? current
    temperature := ← Document.required Document.number? temperature
    voltage := ← Document.required Document.number? voltage }

/-- The reading that a document gives. -/
def Record.ofDocument (d : Document) : Option Record := do
  let [time, power, sources, inverters, storage] ←
    d.fields? .refused ["timestamp", "power", "sources", "inverters", "storage"] | none
  return {
    time := ← Document.required Document.time? time
    flow := {
      power := ← Document.required Power.ofDocument power
      sources := ← Document.required EnergySources.ofDocument sources
      inverters := ← Document.required (Document.listOf? Output.ofDocument) inverters }
    storage := ← Document.required Storage.ofDocument storage }

end HomeEnergy.Inverter
