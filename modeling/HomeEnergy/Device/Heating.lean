import HomeEnergy.Document.Fields
import HomeEnergy.Fault
import HomeEnergy.Register

/-!
# The heating controller

A Solvis controller answers reads of registers. One block holds temperatures in tenths of a degree
and two flows, another the power of the boiler. The room temperature is written back to it.

## Main results

* `Heating.decode` — one reading, from the two blocks.
* `Heating.roomWord` — the word for a room temperature.
-/

namespace HomeEnergy.Heating

/-- The name of the device in messages. -/
def device : String := "solvis"

/-- The registers read to see whether a session is alive. -/
def probeAddress : Nat := 32770

/-- The number of registers of the probe. -/
def probeCount : Nat := 2

/-- The first register of the temperatures. -/
def temperatureBlock : Nat := 33024

/-- The number of registers with temperatures and flows. -/
def temperatureCount : Nat := 18

/-- The first register of the powers. -/
def powerBlock : Nat := 33536

/-- The number of registers with powers. -/
def powerCount : Nat := 5

/-- The room temperatures of the three heating circuits. -/
def roomRegisters : List Nat := [34304, 34305, 34306]

/-- One reading of the device: temperatures in degrees Celsius, powers in kilowatts, the water
drawn in litres a minute and the flow of the solar circuit in litres an hour. -/
structure Record where
  time : Timestamp
  storageTop : Float
  storageBottom : Float
  bufferTop : Float
  bufferBottom : Float
  hotWater : Float
  coldWater : Float
  circulation : Float
  flowRate : Float
  collector : Float
  solarFlow : Float
  solarReturn : Float
  solarExchanger : Float
  solarVolumeFlow : Float
  solarPower : Float
  boiler : Float
  boilerPower : Float
  circuit1 : Float
  circuit2 : Float
  circuit3 : Float

/-- The double of a word. -/
def unsigned (words : List UInt16) (i : Nat) : Float := (Register.word words i).toNat.toFloat

/-- The double of a word in two's complement. -/
def signed (words : List UInt16) (i : Nat) : Float :=
  Float.ofInt (Register.toInt16 [Register.word words i]).toInt

/-- The temperature in a word. -/
def celsius (words : List UInt16) (i : Nat) : Float := signed words i / 10.0

/-- A reading, from the two blocks. Blocks may be longer than asked for, but not shorter. The power
of the solar circuit follows from its flow and the temperatures around it. -/
def decode (time : Timestamp) (temperatures powers : List UInt16) : Outcome Record :=
  if temperatures.length < temperatureCount ∨ powers.length < powerCount then
    .error (.protocol device ("could not retrieve all registers (" ++ toString temperatures.length
      ++ " of " ++ toString temperatureCount ++ ", " ++ toString powers.length ++ " of "
      ++ toString powerCount ++ ")"))
  else
    let t := celsius temperatures
    .ok {
      time
      storageTop := t 0
      hotWater := t 1
      storageBottom := t 2
      bufferTop := t 3
      solarFlow := t 4
      solarReturn := t 5
      solarExchanger := t 6
      collector := t 7
      bufferBottom := t 8
      circulation := t 10
      circuit1 := t 11
      circuit2 := t 12
      boiler := t 13
      coldWater := t 14
      circuit3 := t 15
      solarVolumeFlow := unsigned temperatures 16
      flowRate := unsigned temperatures 17
      solarPower :=
        (signed temperatures 4 - signed temperatures 5) * unsigned temperatures 16 / 8600.0
      boilerPower := unsigned powers 3 / 1000.0 }

/-- The word for a room temperature: tenths of a degree, rounded half away from zero, in two's
complement, with the extreme words for what lies beyond them and zero for an undefined one. -/
def roomWord (temperature : Float) : UInt16 := (temperature * 10.0).round.toInt16.toUInt16

/-- The document of a reading. -/
def Record.toDocument (r : Record) : Document :=
  .map [("timestamp", .text r.time.render), ("storage_top", .float r.storageTop),
    ("storage_bottom", .float r.storageBottom), ("heating_buffer_top", .float r.bufferTop),
    ("heating_buffer_bottom", .float r.bufferBottom), ("hot_water", .float r.hotWater),
    ("cold_water", .float r.coldWater), ("circulation", .float r.circulation),
    ("flow_rate", .float r.flowRate), ("collector", .float r.collector),
    ("solar_flow", .float r.solarFlow), ("solar_return", .float r.solarReturn),
    ("solar_heat_exchanger", .float r.solarExchanger),
    ("solar_volume_flow", .float r.solarVolumeFlow), ("solar_power", .float r.solarPower),
    ("boiler", .float r.boiler), ("boiler_power", .float r.boilerPower),
    ("flow_circuit1", .float r.circuit1), ("flow_circuit2", .float r.circuit2),
    ("flow_circuit3", .float r.circuit3)]

/-- The reading that a document gives. -/
def Record.ofDocument (d : Document) : Option Record := do
  let time :: values ← d.fields? .refused
    ["timestamp", "storage_top", "storage_bottom", "heating_buffer_top", "heating_buffer_bottom",
      "hot_water", "cold_water", "circulation", "flow_rate", "collector", "solar_flow",
      "solar_return", "solar_heat_exchanger", "solar_volume_flow", "solar_power", "boiler",
      "boiler_power", "flow_circuit1", "flow_circuit2", "flow_circuit3"] | none
  let time ← Document.required Document.time? time
  let [storageTop, storageBottom, bufferTop, bufferBottom, hotWater, coldWater, circulation,
    flowRate, collector, solarFlow, solarReturn, solarExchanger, solarVolumeFlow, solarPower,
    boiler, boilerPower, circuit1, circuit2, circuit3] ←
      values.mapM (Document.required Document.number?) | none
  return {
    time, storageTop, storageBottom, bufferTop, bufferBottom, hotWater, coldWater, circulation,
    flowRate, collector, solarFlow, solarReturn, solarExchanger, solarVolumeFlow, solarPower,
    boiler, boilerPower, circuit1, circuit2, circuit3 }

end HomeEnergy.Heating
