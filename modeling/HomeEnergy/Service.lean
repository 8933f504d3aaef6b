import HomeEnergy.Collector
import HomeEnergy.Log.Filter
import HomeEnergy.Settings.Arguments
import HomeEnergy.Settings.Loading
import HomeEnergy.Settings.Validation

/-!
# The service

The service reads its arguments and settings, makes its modules ready and starts them, answers on
its status page until it is asked to stop, and stops the modules.

## Main results

* `Service.configure` — the settings that the service works with.
* `Service.life` — what the service does with them.
-/

namespace HomeEnergy

/-- What asks the service to stop. -/
inductive Signal where
  | interrupt
  | terminate
deriving DecidableEq, Repr

namespace Signal

/-- The name of a signal. -/
def name : Signal → String
  | interrupt => "SIGINT"
  | terminate => "SIGTERM"

/-- All signals. -/
def all : List Signal := [interrupt, terminate]

end Signal

namespace Service

/-- The name of the service. -/
def name : String := "collector"

/-- The version of the service. -/
def version : String := "0.1.0"

/-- A log line of the service itself. -/
def line (level : LogLevel) (message : String) : LogEntry := ⟨level, name, message, []⟩

/-- The filter of the log: that of the environment if it is not blank, and otherwise that of the
level in the arguments. -/
def filter? (a : Arguments) (environment : List (String × String)) : Option LogFilter :=
  match environment.lookup "RUST_LOG" with
  | some text =>
    if text.toList.all Text.isBlank then LogFilter.read (defaultFilter name a.level)
    else LogFilter.read text
  | none => LogFilter.read (defaultFilter name a.level)

/-- The start of the paths of log files; the rest is their day. -/
def logStem? (a : Arguments) : Option String := a.logDir.map (· ++ "/" ++ name ++ ".log.")

/-- What the service logs first. -/
def greeting (a : Arguments) : List LogEntry :=
  let place := match a.logDir with
    | some dir => Text.quoted dir
    | none => "console"
  [⟨.info, "common::logging", "Logging: " ++ name ++ " @ " ++ place, []⟩,
    line .info ("homewatt " ++ name ++ " " ++ version ++ " loading " ++ a.config)]

/-- The settings that the service works with: those of the file and the environment, with the
address of the status page from the arguments, and sound as a whole. -/
def configure (a : Arguments) (file : Option String) (environment : List (String × String)) :
    Outcome CollectorSettings := do
  let s ← CollectorSettings.load a.config file environment
  let s := match a.statusListen with
    | some listen => { s with service := { s.service with listen } }
    | none => s
  s.validate
  return s

/-- What a mere check of the settings logs. -/
def checked (s : CollectorSettings) : LogEntry :=
  line .info ("Configuration valid: " ++ toString s.names.length ++ " module(s): "
    ++ ", ".intercalate s.names)

variable {σ : Type}

/-- What is said of the database. -/
def databaseLine (s : CollectorSettings) : LogEntry :=
  match s.database with
  | none => line .warn "No timescaledb section configured, records are cached only"
  | some d => ⟨.info, "collector::sink", "TimescaleDB pool configured for " ++ d.host ++ ":"
    ++ toString d.port ++ "/" ++ d.database, []⟩

/-- What is said of a module that could not be made ready. -/
def disabled (m : Module σ) (f : Fault) : LogEntry :=
  ⟨.error, "collector::runtime", "Initialization failed, module disabled: " ++ f.message,
    [⟨"module", m.name, false⟩, ⟨"code", f.code, true⟩]⟩

/-- The life of the service with its modules, up to the signal that ends it. It fails if the status
page cannot be opened. -/
def life (s : CollectorSettings) (modules : List (Module σ)) (log : LogEntry → σ → σ)
    (bind : String → Routine σ (Outcome Unit)) (signal : Signal) :
    Routine σ (Except String Unit) := do
  let note (e : LogEntry) : Routine σ Unit := .change (log e)
  if s.database.any (!·.hasAddress) then
    return .error (Fault.database "malformed address").message
  note (databaseLine s)
  let ready ← Module.initAll (fun m f => note (disabled m f)) (modules.map (·.logged log))
  if ready.isEmpty then note (line .warn "No module initialized successfully")
  let started ← Module.startAll ready
  note ⟨.info, "collector::runtime",
    toString started ++ " of " ++ toString ready.length ++ " modules running", []⟩
  match ← bind s.service.listen with
  | .error _ => return .error ("Failed to bind status API to " ++ s.service.listen)
  | .ok () =>
    note (line .info ("Status API listening on " ++ s.service.listen))
    note (line .info ("Received " ++ signal.name ++ ", shutting down"))
    Module.abortAll ready
    note ⟨.info, "collector::runtime", "All modules stopped", []⟩
    note (line .info "Collector stopped")
    return .ok ()

end Service

end HomeEnergy
