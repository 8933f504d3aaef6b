import HomeEnergy.Device.Heating
import HomeEnergy.Link.Modbus.Settings

/-!
# Settings of the collector

One section for the service itself, one for the database, and one for each device; a device without
a section is not read. Within a section most settings have a value of their own.

## Main results

* `CollectorSettings.ofDocument`, `CollectorSettings.toDocument` — settings in documents.
* `CollectorSettings.names` — the names of all modules, in the order in which they start.
* `HeatingSettings.link` — the connection that heating settings ask for.
-/

namespace HomeEnergy

open Document

/-- The service itself. -/
structure ServiceSettings where
  name : String := "homewatt"
  /-- Where the status page listens. -/
  listen : String := "0.0.0.0:8080"
deriving DecidableEq, Repr, Inhabited

/-- The database that records go to. -/
structure DatabaseSettings where
  host : String
  port : Nat := 5432
  database : String
  user : String
  password : String := ""
  maxConnections : Nat := 5
deriving DecidableEq, Repr, Inhabited

/-- The inverter. -/
structure InverterSettings where
  name : String := "fronius"
  host : String
  pollInterval : Span := Span.ofSeconds 10
  timeout : Span := Span.ofSeconds 10
deriving DecidableEq, Repr, Inhabited

/-- The battery. It brings its own certificate. -/
structure BatterySettings where
  name : String := "senec"
  host : String
  pollInterval : Span := Span.ofSeconds 10
  timeout : Span := Span.ofSeconds 10
  acceptInvalidCerts : Bool := true
deriving DecidableEq, Repr, Inhabited

/-- The stove. -/
structure StoveSettings where
  name : String := "hafnertec"
  host : String
  user : String
  password : Option String := none
  pollInterval : Span := Span.ofSeconds 10
  timeout : Span := Span.ofSeconds 10
deriving DecidableEq, Repr, Inhabited

/-- How room temperatures come to the heating controller. -/
structure RoomSettings where
  name : String := "solvis-updater"
  pollInterval : Span := Span.ofSeconds 60
  /-- The module whose latest weather reading is taken. -/
  source : String := "weather"
deriving DecidableEq, Repr, Inhabited

/-- The heating controller. -/
structure HeatingSettings where
  name : String := "solvis"
  host : String
  port : Nat := 502
  unit : Nat := 255
  pollInterval : Span := Span.ofSeconds 10
  timeout : Span := Span.ofSeconds 5
  retry : Backoff := {}
  rooms : Option RoomSettings := none
deriving DecidableEq, Repr, Inhabited

/-- The receiver of weather uploads. -/
structure WeatherSettings where
  name : String := "weather"
  listen : String := "0.0.0.0:8081"
deriving DecidableEq, Repr, Inhabited

/-- All settings. -/
structure CollectorSettings where
  service : ServiceSettings := {}
  database : Option DatabaseSettings := none
  inverter : Option InverterSettings := none
  battery : Option BatterySettings := none
  stove : Option StoveSettings := none
  heating : Option HeatingSettings := none
  weather : Option WeatherSettings := none
deriving DecidableEq, Repr, Inhabited

/-- The address of the database. Its parts stand in it as they are. -/
def DatabaseSettings.url (s : DatabaseSettings) : String :=
  "postgres://" ++ s.user ++ ":" ++ s.password ++ "@" ++ s.host ++ ":" ++ toString s.port ++ "/"
    ++ s.database

/-- The connection to the heating controller. -/
def HeatingSettings.link (s : HeatingSettings) : ModbusSettings where
  name := s.name
  host := s.host
  port := s.port
  unit := s.unit
  probe := some ⟨Heating.probeAddress, Heating.probeCount⟩
  retry := s.retry
  timeout := s.timeout

/-- The names of all modules, in the order in which they start. -/
def CollectorSettings.names (s : CollectorSettings) : List String :=
  s.inverter.toList.map (·.name) ++ s.battery.toList.map (·.name) ++ s.stove.toList.map (·.name)
    ++ s.heating.toList.flatMap (fun h => h.name :: h.rooms.toList.map (·.name))
    ++ s.weather.toList.map (·.name)

/-! ## Settings in documents -/

/-- The service settings that a document gives. -/
def ServiceSettings.ofDocument (surplus : Surplus) (d : Document) : Option ServiceSettings := do
  let [name, listen] ← d.fields? surplus ["name", "status_listen"] | none
  return {
    name := ← optional "homewatt" text? name
    listen := ← optional "0.0.0.0:8080" text? listen }

/-- The database settings that a document gives. -/
def DatabaseSettings.ofDocument (surplus : Surplus) (d : Document) : Option DatabaseSettings := do
  let [host, port, database, user, password, most] ←
    d.fields? surplus ["host", "port", "database", "user", "password", "max_connections"] | none
  return {
    host := ← required text? host
    port := ← optional 5432 (natural? 16) port
    database := ← required text? database
    user := ← required text? user
    password := ← optional "" text? password
    maxConnections := ← optional 5 (natural? 32) most }

/-- The inverter settings that a document gives. -/
def InverterSettings.ofDocument (surplus : Surplus) (d : Document) : Option InverterSettings := do
  let [name, host, interval, timeout] ←
    d.fields? surplus ["name", "host", "poll_interval", "timeout"] | none
  return {
    name := ← optional "fronius" text? name
    host := ← required text? host
    pollInterval := ← optional (Span.ofSeconds 10) span? interval
    timeout := ← optional (Span.ofSeconds 10) span? timeout }

/-- The battery settings that a document gives. -/
def BatterySettings.ofDocument (surplus : Surplus) (d : Document) : Option BatterySettings := do
  let [name, host, interval, timeout, certs] ←
    d.fields? surplus ["name", "host", "poll_interval", "timeout", "accept_invalid_certs"] | none
  return {
    name := ← optional "senec" text? name
    host := ← required text? host
    pollInterval := ← optional (Span.ofSeconds 10) span? interval
    timeout := ← optional (Span.ofSeconds 10) span? timeout
    acceptInvalidCerts := ← optional true bool? certs }

/-- The stove settings that a document gives. -/
def StoveSettings.ofDocument (surplus : Surplus) (d : Document) : Option StoveSettings := do
  let [name, host, user, password, interval, timeout] ←
    d.fields? surplus ["name", "host", "user", "password", "poll_interval", "timeout"] | none
  return {
    name := ← optional "hafnertec" text? name
    host := ← required text? host
    user := ← required text? user
    password := ← nullable text? password
    pollInterval := ← optional (Span.ofSeconds 10) span? interval
    timeout := ← optional (Span.ofSeconds 10) span? timeout }

/-- The room settings that a document gives. -/
def RoomSettings.ofDocument (surplus : Surplus) (d : Document) : Option RoomSettings := do
  let [name, interval, source] ← d.fields? surplus ["name", "poll_interval", "source"] | none
  return {
    name := ← optional "solvis-updater" text? name
    pollInterval := ← optional (Span.ofSeconds 60) span? interval
    source := ← optional "weather" text? source }

/-- The heating settings that a document gives. -/
def HeatingSettings.ofDocument (surplus : Surplus) (d : Document) : Option HeatingSettings := do
  let [name, host, port, unit, interval, timeout, retry, rooms] ←
    d.fields? surplus ["name", "host", "port", "unit_id", "poll_interval", "timeout", "retry",
      "updater"] | none
  return {
    name := ← optional "solvis" text? name
    host := ← required text? host
    port := ← optional 502 (natural? 16) port
    unit := ← optional 255 (natural? 8) unit
    pollInterval := ← optional (Span.ofSeconds 10) span? interval
    timeout := ← optional (Span.ofSeconds 5) span? timeout
    retry := ← optional {} (Backoff.ofDocument surplus) retry
    rooms := ← nullable (RoomSettings.ofDocument surplus) rooms }

/-- The weather settings that a document gives. -/
def WeatherSettings.ofDocument (surplus : Surplus) (d : Document) : Option WeatherSettings := do
  let [name, listen] ← d.fields? surplus ["name", "listen"] | none
  return {
    name := ← optional "weather" text? name
    listen := ← optional "0.0.0.0:8081" text? listen }

/-- The settings that a document gives. Lists in it may be too long. -/
def CollectorSettings.ofDocument (d : Document) : Option CollectorSettings := do
  let [service, database, inverter, battery, stove, heating, weather] ←
    d.fields? .ignored ["service", "timescaledb", "fronius", "senec", "hafnertec", "solvis",
      "weather"] | none
  return {
    service := ← optional {} (ServiceSettings.ofDocument .ignored) service
    database := ← nullable (DatabaseSettings.ofDocument .ignored) database
    inverter := ← nullable (InverterSettings.ofDocument .ignored) inverter
    battery := ← nullable (BatterySettings.ofDocument .ignored) battery
    stove := ← nullable (StoveSettings.ofDocument .ignored) stove
    heating := ← nullable (HeatingSettings.ofDocument .ignored) heating
    weather := ← nullable (WeatherSettings.ofDocument .ignored) weather }

/-- A span as settings write it. -/
private def spanDocument (d : Span) : Document := .text d.render

/-- What may be absent is written as null. -/
private def orNull {α : Type} (write : α → Document) : Option α → Document
  | some a => write a
  | none => .null

/-- The document of service settings. -/
def ServiceSettings.toDocument (s : ServiceSettings) : Document :=
  .map [("name", .text s.name), ("status_listen", .text s.listen)]

/-- The document of database settings. -/
def DatabaseSettings.toDocument (s : DatabaseSettings) : Document :=
  .map [("host", .text s.host), ("port", .int s.port), ("database", .text s.database),
    ("user", .text s.user), ("password", .text s.password),
    ("max_connections", .int s.maxConnections)]

/-- The document of inverter settings. -/
def InverterSettings.toDocument (s : InverterSettings) : Document :=
  .map [("name", .text s.name), ("host", .text s.host),
    ("poll_interval", spanDocument s.pollInterval), ("timeout", spanDocument s.timeout)]

/-- The document of battery settings. -/
def BatterySettings.toDocument (s : BatterySettings) : Document :=
  .map [("name", .text s.name), ("host", .text s.host),
    ("poll_interval", spanDocument s.pollInterval), ("timeout", spanDocument s.timeout),
    ("accept_invalid_certs", .bool s.acceptInvalidCerts)]

/-- The document of stove settings. -/
def StoveSettings.toDocument (s : StoveSettings) : Document :=
  .map [("name", .text s.name), ("host", .text s.host), ("user", .text s.user),
    ("password", orNull .text s.password), ("poll_interval", spanDocument s.pollInterval),
    ("timeout", spanDocument s.timeout)]

/-- The document of room settings. -/
def RoomSettings.toDocument (s : RoomSettings) : Document :=
  .map [("name", .text s.name), ("poll_interval", spanDocument s.pollInterval),
    ("source", .text s.source)]

/-- The document of heating settings. -/
def HeatingSettings.toDocument (s : HeatingSettings) : Document :=
  .map [("name", .text s.name), ("host", .text s.host), ("port", .int s.port),
    ("unit_id", .int s.unit), ("poll_interval", spanDocument s.pollInterval),
    ("timeout", spanDocument s.timeout), ("retry", s.retry.toDocument),
    ("updater", orNull RoomSettings.toDocument s.rooms)]

/-- The document of weather settings. -/
def WeatherSettings.toDocument (s : WeatherSettings) : Document :=
  .map [("name", .text s.name), ("listen", .text s.listen)]

/-- The document of settings. -/
def CollectorSettings.toDocument (s : CollectorSettings) : Document :=
  .map [("service", s.service.toDocument),
    ("timescaledb", orNull DatabaseSettings.toDocument s.database),
    ("fronius", orNull InverterSettings.toDocument s.inverter),
    ("senec", orNull BatterySettings.toDocument s.battery),
    ("hafnertec", orNull StoveSettings.toDocument s.stove),
    ("solvis", orNull HeatingSettings.toDocument s.heating),
    ("weather", orNull WeatherSettings.toDocument s.weather)]

end HomeEnergy
