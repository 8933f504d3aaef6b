import HomeEnergy.Document.Fields
import HomeEnergy.Fault
import HomeEnergy.Text.Quoted

/-!
# The weather station

A weather station uploads its observations as query parameters in imperial units. All of thirteen
parameters are required; they are read in a fixed order, and the first one that is absent or
malformed decides the fault.

## Main results

* `Weather.observe` — one reading, from the parameters of an upload.
-/

namespace HomeEnergy.Weather

/-- The name of the device in messages. -/
def device : String := "weather"

/-- Degrees Celsius for degrees Fahrenheit. -/
def celsius (fahrenheit : Float) : Float := 5.0 * (fahrenheit - 32.0) / 9.0

/-- Metres a second for miles an hour. -/
def metresPerSecond (mph : Float) : Float := mph / 0.6213712 * 1000.0 / 3600.0

/-- Millimetres for inches. -/
def millimetres (inch : Float) : Float := inch / 0.03937007874

/-- Hectopascals in a millimetre of mercury. -/
def hectopascals : Float := 1.33322

/-- Temperature in degrees Celsius and relative humidity in percent. -/
structure Climate where
  temperature : Float
  humidity : Float

/-- Direction in degrees and speeds in metres a second. -/
structure Wind where
  direction : Int
  gusts : Float
  speed : Float

/-- One reading of the station: pressure in hectopascals, rain in millimetres, radiation in watts a
square metre. -/
structure Record where
  time : Timestamp
  uv : Float
  barometer : Float
  dailyRain : Float
  dewPoint : Float
  outdoor : Climate
  indoor : Climate
  rain : Float
  radiation : Float
  wind : Wind

/-- The parameters of an upload. -/
abbrev Parameters := List (String × String)

/-- The value of a parameter; of several with one name the last. -/
def parameter (params : Parameters) (key : String) : Outcome String :=
  match params.reverse.find? (·.1 == key) with
  | some (_, raw) => .ok raw
  | none => .error (.missingField device key)

/-- Read the trimmed value of a parameter as a number; a fault quotes the value as it came. -/
def numberOf {α : Type} (read : List Char → Except NumberFault α) (params : Parameters)
    (key : String) : Outcome α := do
  let raw ← parameter params key
  match read (Text.trim raw.toList) with
  | .ok x => .ok x
  | .error e =>
    .error (.protocol device ("invalid " ++ key ++ " " ++ Text.quoted raw ++ ": " ++ e.message))

/-- Read the parameters of an upload. Pressure comes in inches of mercury. -/
def observe (time : Timestamp) (params : Parameters) : Outcome Record := do
  let value := numberOf readFloat params
  let direction ← numberOf (readInteger 32) params "winddir"
  let uv ← value "UV"
  let barometer ← value "baromin"
  let dailyRain ← value "dailyrainin"
  let dewPoint ← value "dewptf"
  let outdoorTemperature ← value "tempf"
  let outdoorHumidity ← value "humidity"
  let indoorTemperature ← value "indoortempf"
  let indoorHumidity ← value "indoorhumidity"
  let rain ← value "rainin"
  let radiation ← value "solarradiation"
  let gusts ← value "windgustmph"
  let speed ← value "windspeedmph"
  return {
    time, uv, radiation
    barometer := millimetres barometer * hectopascals
    dailyRain := millimetres dailyRain
    dewPoint := celsius dewPoint
    outdoor := ⟨celsius outdoorTemperature, outdoorHumidity⟩
    indoor := ⟨celsius indoorTemperature, indoorHumidity⟩
    rain := millimetres rain
    wind := ⟨direction, metresPerSecond gusts, metresPerSecond speed⟩ }

/-- The document of a climate. -/
def Climate.toDocument (c : Climate) : Document :=
  .map [("temperature", .float c.temperature), ("humidity", .float c.humidity)]

/-- The document of a wind. -/
def Wind.toDocument (w : Wind) : Document :=
  .map [("direction", .int w.direction), ("gusts", .float w.gusts), ("speed", .float w.speed)]

/-- The document of a reading. -/
def Record.toDocument (r : Record) : Document :=
  .map [("timestamp", .text r.time.render), ("uv", .float r.uv), ("barometer", .float r.barometer),
    ("daily_rain", .float r.dailyRain), ("dew_point", .float r.dewPoint),
    ("outdoor", r.outdoor.toDocument), ("indoor", r.indoor.toDocument), ("rain", .float r.rain),
    ("solar_radiation", .float r.radiation), ("wind", r.wind.toDocument)]

/-- The climate that a document gives. -/
def Climate.ofDocument (d : Document) : Option Climate := do
  let [temperature, humidity] ← d.fields? .refused ["temperature", "humidity"] | none
  return {
    temperature := ← Document.required Document.number? temperature
    humidity := ← Document.required Document.number? humidity }

/-- The wind that a document gives. -/
def Wind.ofDocument (d : Document) : Option Wind := do
  let [direction, gusts, speed] ← d.fields? .refused ["direction", "gusts", "speed"] | none
  return {
    direction := ← Document.required (Document.integer? 32) direction
    gusts := ← Document.required Document.number? gusts
    speed := ← Document.required Document.number? speed }

/-- The reading that a document gives. -/
def Record.ofDocument (d : Document) : Option Record := do
  let [time, uv, barometer, dailyRain, dewPoint, outdoor, indoor, rain, radiation, wind] ←
    d.fields? .refused ["timestamp", "uv", "barometer", "daily_rain", "dew_point", "outdoor",
      "indoor", "rain", "solar_radiation", "wind"] | none
  return {
    time := ← Document.required Document.time? time
    uv := ← Document.required Document.number? uv
    barometer := ← Document.required Document.number? barometer
    dailyRain := ← Document.required Document.number? dailyRain
    dewPoint := ← Document.required Document.number? dewPoint
    outdoor := ← Document.required Climate.ofDocument outdoor
    indoor := ← Document.required Climate.ofDocument indoor
    rain := ← Document.required Document.number? rain
    radiation := ← Document.required Document.number? radiation
    wind := ← Document.required Wind.ofDocument wind }

end HomeEnergy.Weather
