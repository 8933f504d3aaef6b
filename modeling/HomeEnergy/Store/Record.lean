import HomeEnergy.Device.Battery
import HomeEnergy.Device.Heating
import HomeEnergy.Device.Inverter
import HomeEnergy.Device.Stove
import HomeEnergy.Device.Weather
import HomeEnergy.Store.Table

/-!
# The tables of the devices

One table per device, named for it. Lists within a record are kept as documents.
-/

namespace HomeEnergy

open Store (Column Table)

/-- The columns of a split of energy. -/
def EnergySources.columns {ρ : Type} (sources : ρ → EnergySources) : List (Column ρ) := [
  .double "feed_in" (sources · |>.feedIn),
  .double "grid_import" (sources · |>.gridImport),
  .double "charging" (sources · |>.charging),
  .double "discharging" (sources · |>.discharging)]

/-- The table of the inverter. -/
def Inverter.table : Table Inverter.Record where
  name := Inverter.device
  time := (·.time)
  columns := [
    .double "house_consumption" (·.flow.power.house),
    .double "pv" (·.flow.power.pv),
    .double "grid" (·.flow.power.grid),
    .double "battery" (·.flow.power.battery)]
    ++ EnergySources.columns (·.flow.sources)
    ++ [.document "inverters" fun r => .list (r.flow.inverters.map Inverter.Output.toDocument),
      .double "battery_soc" (·.storage.charge),
      .double "battery_current" (·.storage.current),
      .double "battery_temperature" (·.storage.temperature),
      .double "battery_voltage" (·.storage.voltage)]

/-- The table of the battery. -/
def Battery.table : Table Battery.Record where
  name := Battery.device
  time := (·.time)
  columns := [
    .double "house_consumption" (·.power.house),
    .double "pv" (·.power.pv),
    .double "grid" (·.power.grid),
    .double "battery" (·.power.battery)]
    ++ EnergySources.columns (·.sources)
    ++ [.double "battery_soc" (·.cells.charge),
      .double "battery_voltage" (·.cells.voltage),
      .double "battery_temperature" (·.cells.temperature),
      .double "total_grid_import" (·.totals.gridImport),
      .double "total_grid_export" (·.totals.gridExport),
      .double "total_consumption" (·.totals.consumption),
      .double "total_production" (·.totals.production),
      .double "total_current" (·.totals.current),
      .large "pv_limit" (·.system.pvLimit),
      .double "ac_power" (·.system.acPower),
      .double "frequency" (·.system.frequency),
      .large "state" (·.system.state),
      .large "operating_hours" (·.system.hours),
      .large "battery_modules" (·.system.modules),
      .double "case_temperature" (·.system.caseTemperature),
      .double "mcu_temperature" (·.system.controlTemperature),
      .large "fan_speed" (·.system.fan),
      .document "ac_phases" fun r => .list (r.phases.map Battery.Channel.toDocument),
      .document "mppt" fun r => .list (r.trackers.map Battery.Channel.toDocument)]

/-- The table of the stove. -/
def Stove.table : Table Stove.Record where
  name := Stove.device
  time := (·.time)
  columns := [
    .double "chamber_temperature" (·.chamber),
    .double "heating_share" (·.heatingShare),
    .double "flow_temperature" (·.flow),
    .double "return_temperature" (·.returned),
    .double "throughput" (·.throughput),
    .double "fan" (·.fan)]

/-- The table of the heating controller. -/
def Heating.table : Table Heating.Record where
  name := Heating.device
  time := (·.time)
  columns := [
    .double "storage_top" (·.storageTop),
    .double "storage_bottom" (·.storageBottom),
    .double "heating_buffer_top" (·.bufferTop),
    .double "heating_buffer_bottom" (·.bufferBottom),
    .double "hot_water" (·.hotWater),
    .double "cold_water" (·.coldWater),
    .double "circulation" (·.circulation),
    .double "flow_rate" (·.flowRate),
    .double "collector" (·.collector),
    .double "solar_flow" (·.solarFlow),
    .double "solar_return" (·.solarReturn),
    .double "solar_heat_exchanger" (·.solarExchanger),
    .double "solar_volume_flow" (·.solarVolumeFlow),
    .double "solar_power" (·.solarPower),
    .double "boiler" (·.boiler),
    .double "boiler_power" (·.boilerPower),
    .double "flow_circuit1" (·.circuit1),
    .double "flow_circuit2" (·.circuit2),
    .double "flow_circuit3" (·.circuit3)]

/-- The table of the weather. -/
def Weather.table : Table Weather.Record where
  name := Weather.device
  time := (·.time)
  columns := [
    .double "uv" (·.uv),
    .double "barometer" (·.barometer),
    .double "daily_rain" (·.dailyRain),
    .double "dew_point" (·.dewPoint),
    .double "outdoor_temperature" (·.outdoor.temperature),
    .double "outdoor_humidity" (·.outdoor.humidity),
    .double "indoor_temperature" (·.indoor.temperature),
    .double "indoor_humidity" (·.indoor.humidity),
    .double "rain" (·.rain),
    .double "solar_radiation" (·.radiation),
    .small "wind_direction" (·.wind.direction),
    .double "wind_gusts" (·.wind.gusts),
    .double "wind_speed" (·.wind.speed)]

end HomeEnergy
