import HomeEnergy.Bench.World
import HomeEnergy.Routine.Schedule
import HomeEnergy.Service.Report

/-!
# A run of the service on the bench

The service lives where nothing can be reached, until a signal asks it to stop.

## Main results

* `World.live` — what such a life shows.
-/

namespace HomeEnergy.Bench.World

/-- The life of the service with given settings on a bench. -/
def life (s : CollectorSettings) (signal : Signal) : Routine World (Except String Unit) :=
  let modules := Collector.modules part (isolated s.database.isSome count) s
  Service.life s modules note (fun address => pure (Listener.opening address)) signal

/-- What the life of the service shows. -/
def live (signal : Signal) (s : CollectorSettings) : List LogEntry × Except String Unit :=
  let modules := Collector.modules part (isolated s.database.isSome count) s
  let schedule : Schedule World (Except String Unit) := {
    state := start s, main := .ended (.ok ()), tasks := modules.map ({ body := ·.body }) }
  match (schedule.assign (life s signal)).finish? 10000000 with
  | some (r, t) => (t.state.log.reverse, r)
  | none => ([], .error "not ended")

end HomeEnergy.Bench.World
