import HomeEnergy.Device.Battery
import HomeEnergy.Device.Heating
import HomeEnergy.Device.Inverter
import HomeEnergy.Device.Stove
import HomeEnergy.Device.Weather
import HomeEnergy.Link.Http
import HomeEnergy.Link.Modbus
import HomeEnergy.Module.Poller
import HomeEnergy.Settings

/-!
# Queries of the devices

What is asked of each device, over which connections, and the record that its answers make. The room
temperature goes the other way, from the cache to the heating controller.

## Main results

* `Inverter.source`, `Battery.source`, `Stove.source`, `Heating.source` — the devices.
* `Heating.rooms` — the action that hands on the room temperature.
-/

namespace HomeEnergy

open Routine (Part)

variable {σ S : Type}

/-- The moment that the clock shows. -/
def moment : Routine σ Timestamp := do return .ofNanos (← .now)

/-- A value, if there is one, with the moment at which it has come. -/
def stamped {α β : Type} (make : Timestamp → α → β) : Outcome α → Routine σ (Outcome β)
  | .error f => pure (.error f)
  | .ok a => do return .ok (make (← moment) a)

/-- A connection that asks the inverter for one thing. -/
def InverterSettings.link (s : InverterSettings) (kind path : String) : HttpSettings where
  name := s.name ++ "-" ++ kind
  baseUrl := s.host
  path
  timeout := s.timeout
  acceptInvalidCerts := true

/-- The connection that asks for the flow of power. -/
def InverterSettings.powerFlow (s : InverterSettings) : HttpSettings :=
  s.link "powerflow" "solar_api/v1/GetPowerFlowRealtimeData.fcgi"

/-- The connection that asks for the state of the battery. -/
def InverterSettings.storage (s : InverterSettings) : HttpSettings :=
  s.link "storage" "solar_api/v1/GetStorageRealtimeData.cgi"

/-- The connection to the battery. -/
def BatterySettings.link (s : BatterySettings) : HttpSettings where
  name := s.name
  baseUrl := s.host
  path := "lala.cgi"
  method := .post
  body := some Battery.request
  timeout := s.timeout
  acceptInvalidCerts := s.acceptInvalidCerts

/-- The connection to the stove. -/
def StoveSettings.link (s : StoveSettings) : HttpSettings where
  name := s.name
  baseUrl := s.host
  path := "schematic_files/9.cgi"
  timeout := s.timeout
  auth := some ⟨s.user, s.password⟩

namespace Inverter

/-- The inverter. Both connections are used for a query, one after the other. -/
def source (name : String) (powerFlow storage : HttpLink σ) : Source σ Record where
  name
  init := do
    match ← powerFlow.init with
    | .error f => return .error f
    | .ok () => storage.init
  query := do
    match ← powerFlow.execute fun a => pure (do readPowerFlow (← a.document name)) with
    | .error f => return .error f
    | .ok flow =>
      stamped (fun time storage => ⟨time, flow, storage⟩)
        (← storage.execute fun a => pure (do readStorage (← a.document name)))

end Inverter

namespace Battery

/-- The battery. -/
def source (name : String) (link : HttpLink σ) : Source σ Record where
  name
  init := link.init
  query := link.execute fun a => do
    let time ← moment
    return (do read time (← a.document name))

end Battery

namespace Stove

/-- The stove. -/
def source (name : String) (link : HttpLink σ) : Source σ Record where
  name
  init := link.init
  query := link.execute fun a => do
    let time ← moment
    return (do read time (← a.text))

end Stove

namespace Heating

/-- Both blocks of registers, read in one use. -/
def readBlocks (c : Controller σ S) (session : S) :
    Routine σ (Outcome (List UInt16 × List UInt16)) := do
  match ← c.readHolding session temperatureBlock temperatureCount with
  | .error f => return .error f
  | .ok temperatures =>
    match ← c.readHolding session powerBlock powerCount with
    | .error f => return .error f
    | .ok powers => return .ok (temperatures, powers)

/-- The heating controller. Blocks that are too short are no fault of the connection. -/
def source (name : String) (link : ModbusLink σ S) : Source σ Record where
  name
  init := link.init
  query := do
    match ← link.execute (readBlocks link.controller) with
    | .error f => return .error f
    | .ok (temperatures, powers) =>
      let time ← moment
      return decode time temperatures powers

/-- Write a word into registers, one after the other, up to the first fault. -/
def writeEach (c : Controller σ S) (session : S) (word : UInt16) :
    List Nat → Routine σ (Outcome Unit)
  | [] => pure (.ok ())
  | address :: rest => do
    match ← c.writeSingle session address word with
    | .error f => return .error f
    | .ok () => writeEach c session word rest

/-- The action that writes the room temperature of the latest weather reading. -/
def rooms (s : RoomSettings) (link : ModbusLink σ S) (cache : Part σ Cache) : Action σ where
  name := s.name
  init := link.init
  apply := do
    match (cache.get (← .look)).read s.source Weather.Record.ofDocument with
    | .error f => return .error f
    | .ok weather =>
      link.execute fun session =>
        writeEach link.controller session (roomWord weather.indoor.temperature) roomRegisters

end Heating

end HomeEnergy
