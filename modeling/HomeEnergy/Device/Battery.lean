import HomeEnergy.Decimal.Single
import HomeEnergy.Device.Sources
import HomeEnergy.Document.Json
import HomeEnergy.Fault
import HomeEnergy.Timestamp

/-!
# The home battery

A SENEC battery answers a request that names the wanted values. Every value is a text with a type
in its first three characters, such as `fl_43C80000` for a single-precision number or `u3_0000000B`
for an unsigned one. Malformed digits make the whole answer useless; absent values and values of
other types count as zero.

## Main results

* `Battery.decode` — the number that one value writes.
* `Battery.read` — one reading, from the values of an answer.
-/

namespace HomeEnergy.Battery

/-- The name of the device in messages. -/
def device : String := "senec"

/-! ## The request -/

/-- The sections of a request and the values wanted from each. -/
def wanted : List (String × List String) :=
  [("PV1", ["POWER_RATIO", "MPP_CUR", "MPP_VOL", "MPP_POWER"]),
    ("PM1OBJ1", ["P_TOTAL", "FREQ", "U_AC", "I_AC", "P_AC"]),
    ("ENERGY", ["GUI_BAT_DATA_FUEL_CHARGE", "GUI_BAT_DATA_POWER", "GUI_BAT_DATA_VOLTAGE",
      "GUI_HOUSE_POW", "GUI_GRID_POW", "GUI_INVERTER_POWER", "STAT_STATE",
      "STAT_HOURS_OF_OPERATION"]),
    ("BMS", ["NR_INSTALLED", "TOTAL_CURRENT"]),
    ("STATISTIC", ["LIVE_GRID_IMPORT", "LIVE_GRID_EXPORT", "LIVE_HOUSE_CONS", "LIVE_PV_GEN"]),
    ("TEMPMEASURE", ["BATTERY_TEMP", "CASE_TEMP", "MCU_TEMP"]),
    ("FAN_SPEED", ["INV_LV"])]

/-- The document that asks for the wanted values: each with an empty text, keys ascending. -/
def request : Document :=
  (Document.map (wanted.map fun (name, keys) =>
    (name, Document.map (keys.map fun key => (key, Document.text ""))))).sorted

/-! ## Values -/

/-- The value of a hexadecimal digit of either case. -/
def digit? (c : Char) : Option Nat :=
  if c.isDigit then some (c.toNat - '0'.toNat)
  else if 'a' ≤ c ∧ c ≤ 'f' then some (c.toNat - 'a'.toNat + 10)
  else if 'A' ≤ c ∧ c ≤ 'F' then some (c.toNat - 'A'.toNat + 10)
  else none

/-- The digits of a number, behind an optional plus. -/
def afterPlus : List Char → List Char
  | '+' :: digits => digits
  | digits => digits

/-- The number that hexadecimal digits write: at least one digit, with an optional plus before the
first, and a value of at most `bits` bits. -/
def hex? (bits : Nat) (text : List Char) : Option Nat := do
  let digits := afterPlus text
  if digits = [] then none
  else
    let n ← digits.foldlM (fun n c => (digit? c).map (16 * n + ·)) 0
    if n < Nat.pow 2 bits then some n else none

/-- The double of a whole number. -/
def ofNat (n : Nat) : Float := Float.ofScientific n false 0

/-- The double of an integer. -/
def ofInt (n : Int) : Float := if n < 0 then -ofNat n.natAbs else ofNat n.natAbs

/-- The number in two's complement whose bits are the lowest `bits` bits of `n`. They are moved to
the top of a word of 64 bits, where the first of them is the sign, and down again with that sign. -/
def signed (bits n : Nat) : Int :=
  ((BitVec.ofNat 64 n <<< (64 - bits)).sshiftRight (64 - bits)).toInt

/-- The number that one value writes; nothing if its digits are malformed. The width of a signed
value is given by the number of its digits. -/
def decode (value : Document) : Option Float :=
  match value with
  | .text s =>
    match s.toList with
    | 'f' :: 'l' :: '_' :: digits =>
      (hex? 32 digits).map fun n => Single.toFloat (Float32.ofBits (UInt32.ofNat n))
    | 'u' :: width :: '_' :: digits =>
      if width ∈ ['1', '3', '6', '8'] then (hex? 64 digits).map ofNat else some 0.0
    | 'i' :: width :: '_' :: digits =>
      if width ∈ ['1', '3', '8'] then
        let bits := 4 * (String.ofList digits).utf8ByteSize
        if bits = 0 ∨ 64 < bits then none
        else (hex? 64 digits).map fun n => ofInt (signed bits n)
      else some 0.0
    | _ => some 0.0
  | _ => some 0.0

/-! ## Readings -/

/-- Power in watts. -/
structure Power where
  house : Float
  /-- Positive while importing. -/
  grid : Float
  pv : Float
  /-- Positive while charging. -/
  battery : Float

/-- The state of the cells. -/
structure Cells where
  charge : Float
  power : Float
  voltage : Float
  temperature : Float

/-- Energy counted since installation, in watt hours, and the current of the battery. -/
structure Totals where
  gridImport : Float
  gridExport : Float
  consumption : Float
  production : Float
  current : Float

/-- The state of the whole system. -/
structure System where
  pvLimit : Int
  acPower : Float
  frequency : Float
  state : Int
  hours : Int
  modules : Int
  caseTemperature : Float
  controlTemperature : Float
  fan : Int

/-- One phase or one tracker. -/
structure Channel where
  current : Float
  voltage : Float
  power : Float

/-- One reading of the device. -/
structure Record where
  time : Timestamp
  power : Power
  sources : EnergySources
  cells : Cells
  totals : Totals
  system : System
  phases : List Channel
  trackers : List Channel

/-- The number of phases, and of trackers. -/
def channels : Nat := 3

/-- A section of an answer. -/
def sectionOf (answer : Document) (name : String) : Outcome Document :=
  match answer.get? name with
  | some d => .ok d
  | none => .error (.missingField device name)

/-- Decode a value; a fault shows where it stands and what it is. -/
def decodeAt (place : String) (raw : Document) : Outcome Float :=
  match decode raw with
  | some x => .ok x
  | none => .error (.protocol device ("malformed value " ++ place ++ ": " ++ Json.text raw))

/-- The value under a key of a section. -/
def value (answer : Document) (name key : String) : Outcome Float := do
  let d ← sectionOf answer name
  decodeAt (name ++ "." ++ key) ((d.get? key).getD .null)

/-- The value at an index of the list under a key of a section. -/
def valueAt (answer : Document) (name key : String) (i : Nat) : Outcome Float := do
  let d ← sectionOf answer name
  decodeAt (name ++ "." ++ key ++ "[" ++ toString i ++ "]")
    (((d.get? key).bind (·.item? i)).getD .null)

/-- Cut a double off to an integer of 64 bits, at most the largest and at least the smallest of
them; an undefined number counts as zero. -/
def whole (x : Float) : Int := x.toInt64.toInt

/-- The channels of a section, from the lists under three keys. -/
def readChannels (answer : Document) (name current voltage power : String) :
    Outcome (List Channel) :=
  (List.range channels).mapM fun i => do
    return {
      current := ← valueAt answer name current i
      voltage := ← valueAt answer name voltage i
      power := ← valueAt answer name power i }

/-- Read an answer. Energy is reported in kilowatt hours. -/
def read (time : Timestamp) (answer : Document) : Outcome Record := do
  let battery ← value answer "ENERGY" "GUI_BAT_DATA_POWER"
  let power : Power := {
    house := ← value answer "ENERGY" "GUI_HOUSE_POW"
    grid := ← value answer "ENERGY" "GUI_GRID_POW"
    pv := ← value answer "ENERGY" "GUI_INVERTER_POWER"
    battery }
  let cells : Cells := {
    charge := ← value answer "ENERGY" "GUI_BAT_DATA_FUEL_CHARGE"
    power := battery
    voltage := ← value answer "ENERGY" "GUI_BAT_DATA_VOLTAGE"
    temperature := ← value answer "TEMPMEASURE" "BATTERY_TEMP" }
  let totals : Totals := {
    gridImport := (← value answer "STATISTIC" "LIVE_GRID_IMPORT") * 1000.0
    gridExport := (← value answer "STATISTIC" "LIVE_GRID_EXPORT") * 1000.0
    consumption := (← value answer "STATISTIC" "LIVE_HOUSE_CONS") * 1000.0
    production := (← value answer "STATISTIC" "LIVE_PV_GEN") * 1000.0
    current := ← value answer "BMS" "TOTAL_CURRENT" }
  let system : System := {
    pvLimit := whole (← value answer "PV1" "POWER_RATIO")
    acPower := ← value answer "PM1OBJ1" "P_TOTAL"
    frequency := ← value answer "PM1OBJ1" "FREQ"
    state := whole (← value answer "ENERGY" "STAT_STATE")
    hours := whole (← value answer "ENERGY" "STAT_HOURS_OF_OPERATION")
    modules := whole (← value answer "BMS" "NR_INSTALLED")
    caseTemperature := ← value answer "TEMPMEASURE" "CASE_TEMP"
    controlTemperature := ← value answer "TEMPMEASURE" "MCU_TEMP"
    fan := whole (← value answer "FAN_SPEED" "INV_LV") }
  let phases ← readChannels answer "PM1OBJ1" "I_AC" "U_AC" "P_AC"
  let trackers ← readChannels answer "PV1" "MPP_CUR" "MPP_VOL" "MPP_POWER"
  return {
    time, power, cells, totals, system, phases, trackers
    sources := EnergySources.split power.grid power.battery }

/-! ## Records as documents -/

/-- The document of a channel. -/
def Channel.toDocument (c : Channel) : Document :=
  .map [("current", .float c.current), ("voltage", .float c.voltage), ("power", .float c.power)]

/-- The document of the powers. -/
def Power.toDocument (p : Power) : Document :=
  .map [("house_consumption", .float p.house), ("grid", .float p.grid), ("pv", .float p.pv),
    ("battery", .float p.battery)]

/-- The document of the cells' state. -/
def Cells.toDocument (c : Cells) : Document :=
  .map [("soc", .float c.charge), ("power", .float c.power), ("voltage", .float c.voltage),
    ("temperature", .float c.temperature)]

/-- The document of the counters. -/
def Totals.toDocument (t : Totals) : Document :=
  .map [("grid_import", .float t.gridImport), ("grid_export", .float t.gridExport),
    ("consumption", .float t.consumption), ("production", .float t.production),
    ("current", .float t.current)]

/-- The document of the system's state. -/
def System.toDocument (s : System) : Document :=
  .map [("pv_limit", .int s.pvLimit), ("ac_power", .float s.acPower),
    ("frequency", .float s.frequency), ("state", .int s.state), ("operating_hours", .int s.hours),
    ("battery_modules", .int s.modules), ("case_temperature", .float s.caseTemperature),
    ("mcu_temperature", .float s.controlTemperature), ("fan_speed", .int s.fan)]

/-- The document of a reading. -/
def Record.toDocument (r : Record) : Document :=
  .map [("timestamp", .text r.time.render), ("power", r.power.toDocument),
    ("sources", r.sources.toDocument), ("battery", r.cells.toDocument),
    ("totals", r.totals.toDocument), ("system", r.system.toDocument),
    ("ac_phases", .list (r.phases.map Channel.toDocument)),
    ("mppt", .list (r.trackers.map Channel.toDocument))]

/-- The channel that a document gives. -/
def Channel.ofDocument (d : Document) : Option Channel := do
  let [current, voltage, power] ← d.fields? .refused ["current", "voltage", "power"] | none
  return {
    current := ← Document.required Document.number? current
    voltage := ← Document.required Document.number? voltage
    power := ← Document.required Document.number? power }

/-- The powers that a document gives. -/
def Power.ofDocument (d : Document) : Option Power := do
  let [house, grid, pv, battery] ←
    d.fields? .refused ["house_consumption", "grid", "pv", "battery"] | none
  return {
    house := ← Document.required Document.number? house
    grid := ← Document.required Document.number? grid
    pv := ← Document.required Document.number? pv
    battery := ← Document.required Document.number? battery }

/-- The cells' state that a document gives. -/
def Cells.ofDocument (d : Document) : Option Cells := do
  let [charge, power, voltage, temperature] ←
    d.fields? .refused ["soc", "power", "voltage", "temperature"] | none
  return {
    charge := ← Document.required Document.number? charge
    power := ← Document.required Document.number? power
    voltage := ← Document.required Document.number? voltage
    temperature := ← Document.required Document.number? temperature }

/-- The counters that a document gives. -/
def Totals.ofDocument (d : Document) : Option Totals := do
  let [gridImport, gridExport, consumption, production, current] ← d.fields? .refused
    ["grid_import", "grid_export", "consumption", "production", "current"] | none
  return {
    gridImport := ← Document.required Document.number? gridImport
    gridExport := ← Document.required Document.number? gridExport
    consumption := ← Document.required Document.number? consumption
    production := ← Document.required Document.number? production
    current := ← Document.required Document.number? current }

/-- The system's state that a document gives. -/
def System.ofDocument (d : Document) : Option System := do
  let [pvLimit, acPower, frequency, state, hours, modules, caseTemperature, controlTemperature,
    fan] ← d.fields? .refused ["pv_limit", "ac_power", "frequency", "state", "operating_hours",
      "battery_modules", "case_temperature", "mcu_temperature", "fan_speed"] | none
  return {
    pvLimit := ← Document.required (Document.integer? 64) pvLimit
    acPower := ← Document.required Document.number? acPower
    frequency := ← Document.required Document.number? frequency
    state := ← Document.required (Document.integer? 64) state
    hours := ← Document.required (Document.integer? 64) hours
    modules := ← Document.required (Document.integer? 64) modules
    caseTemperature := ← Document.required Document.number? caseTemperature
    controlTemperature := ← Document.required Document.number? controlTemperature
    fan := ← Document.required (Document.integer? 64) fan }

/-- The reading that a document gives. -/
def Record.ofDocument (d : Document) : Option Record := do
  let [time, power, sources, cells, totals, system, phases, trackers] ← d.fields? .refused
    ["timestamp", "power", "sources", "battery", "totals", "system", "ac_phases", "mppt"] | none
  return {
    time := ← Document.required Document.time? time
    power := ← Document.required Power.ofDocument power
    sources := ← Document.required EnergySources.ofDocument sources
    cells := ← Document.required Cells.ofDocument cells
    totals := ← Document.required Totals.ofDocument totals
    system := ← Document.required System.ofDocument system
    phases := ← Document.required (Document.listOf? Channel.ofDocument) phases
    trackers := ← Document.required (Document.listOf? Channel.ofDocument) trackers }

end HomeEnergy.Battery
