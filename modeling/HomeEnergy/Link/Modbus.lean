import HomeEnergy.Fault
import HomeEnergy.Link.Modbus.Settings
import HomeEnergy.Link.State
import HomeEnergy.Log.Entry
import HomeEnergy.Routine.Retry
import HomeEnergy.Span.Text

/-!
# Modbus connections

A connection holds at most one session with a controller. Before each use the session is checked,
and a session that is gone or dead is replaced. A transport fault during a use ends the session; the
use is not repeated. All of a use happens under the lock.

## Main results

* `ModbusLink.init` — the first session.
* `ModbusLink.ensureLive` — a session that is alive, replaced if need be.
* `ModbusLink.execute` — one use.
-/

namespace HomeEnergy

open Routine (Part)

/-- What a controller does for a session. -/
structure Controller (σ S : Type) where
  /-- Open a session. -/
  connect : Routine σ (Outcome S)
  readHolding : S → Nat → Nat → Routine σ (Outcome (List UInt16))
  readInput : S → Nat → Nat → Routine σ (Outcome (List UInt16))
  writeSingle : S → Nat → UInt16 → Routine σ (Outcome Unit)
  writeMultiple : S → Nat → List UInt16 → Routine σ (Outcome Unit)

/-- What a connection knows. -/
structure ModbusStatus (S : Type) where
  /-- Whether there has ever been a session since initialization was first asked for. -/
  initialized : Bool := false
  session : Option S := none
  state : LinkState := .uninitialized
deriving Inhabited

/-- A connection. -/
structure ModbusLink (σ S : Type) where
  settings : ModbusSettings
  controller : Controller σ S
  status : Part σ (ModbusStatus S)
  /-- What becomes of an event. -/
  report : LinkEvent → σ → σ
  /-- What becomes of a log line. -/
  log : LogEntry → σ → σ := fun _ s => s

namespace ModbusLink

variable {σ S α : Type}

/-- Change what the connection knows. -/
def update (l : ModbusLink σ S) (f : ModbusStatus S → ModbusStatus S) : Routine σ Unit :=
  .change (l.status.modify f)

/-- What the connection knows. -/
def known (l : ModbusLink σ S) : Routine σ (ModbusStatus S) := do
  return l.status.get (← .look)

/-- Report an event. -/
def tell (l : ModbusLink σ S) (e : LinkEvent) : Routine σ Unit := .change (l.report e)

/-- Write a log line. -/
def note (l : ModbusLink σ S) (level : LogLevel) (text : String) : Routine σ Unit :=
  .change (l.log ⟨level, "homewatt_link::modbus", "[" ++ l.settings.name ++ "] " ++ text, []⟩)

/-- Write a log line about a failed attempt. -/
def noteAttempt (l : ModbusLink σ S) (n : Nat) (wait : Option Span) (f : Fault) :
    Routine σ Unit :=
  let attempt := "Attempt " ++ toString (n + 1) ++ "/" ++ toString l.settings.retry.attempts
  let message := match wait with
    | none => attempt ++ " failed, giving up: " ++ f.message
    | some d => attempt ++ " failed: " ++ f.message ++ ". Retrying in " ++ d.brief
  .change (l.log ⟨.warn, "homewatt_link::retry", message, []⟩)

/-- Replace the session by a new one. The old one is dropped first. -/
def connect (l : ModbusLink σ S) : Routine σ (Outcome Unit) := do
  l.update ({ · with state := .initializing, session := none })
  match ← l.settings.retry.retry l.controller.connect l.noteAttempt with
  | .ok session =>
    l.note .info ("Modbus connection to " ++ l.settings.endpoint ++ " established")
    l.update ({ · with session := some session, state := .ready })
    return .ok ()
  | .error f =>
    l.note .warn ("Unable to connect to " ++ l.settings.endpoint ++ ": " ++ f.message)
    l.update ({ · with state := .failed })
    return .error f

/-- Initialization, with the lock held. -/
def initUnlocked (l : ModbusLink σ S) : Routine σ (Outcome Unit) := do
  if (← l.known).session.isSome then return .ok ()
  match ← l.connect with
  | .ok () =>
    l.update ({ · with initialized := true })
    l.tell .initialized
    return .ok ()
  | .error f =>
    l.tell .initFailed
    return .error f

/-- Open a session, unless there is one. -/
def init (l : ModbusLink σ S) : Routine σ (Outcome Unit) := .locked l.initUnlocked

/-- Whether a session is alive. Without a probe it counts as alive. -/
def isLive (l : ModbusLink σ S) (session : Option S) : Routine σ Bool :=
  match session, l.settings.probe with
  | none, _ => pure false
  | some _, none => pure true
  | some s, some probe => do
    match ← l.controller.readHolding s probe.address probe.count with
    | .ok _ => return true
    | .error f =>
      l.note .warn ("Liveness probe failed, reconnecting: " ++ f.message)
      return false

/-- Make sure that there is a session and that it is alive. -/
def ensureLive (l : ModbusLink σ S) : Routine σ (Outcome Unit) := do
  if ← l.isLive (← l.known).session then return .ok ()
  match ← l.connect with
  | .ok () =>
    l.tell .reinitialized
    return .ok ()
  | .error f => return .error f

/-- A use of a session. A transport fault ends the session. -/
def useSession (l : ModbusLink σ S) (session : S) (body : S → Routine σ (Outcome α)) :
    Routine σ (Outcome α) := do
  let result ← body session
  match result with
  | .error f =>
    if f.retryable then
      l.note .warn ("Dropping Modbus session after error: " ++ f.message)
      l.update ({ · with session := none, state := .failed })
      l.tell .requestFailed
  | .ok _ => pure ()
  return result

/-- A use, with the lock held. -/
def executeUnlocked (l : ModbusLink σ S) (body : S → Routine σ (Outcome α)) :
    Routine σ (Outcome α) := do
  if !(← l.known).initialized then return .error (.notInitialized l.settings.name)
  match ← l.ensureLive with
  | .error f => return .error f
  | .ok () =>
    match (← l.known).session with
    | none => return .error (.notInitialized l.settings.name)
    | some session => l.useSession session body

/-- Use the connection once. -/
def execute (l : ModbusLink σ S) (body : S → Routine σ (Outcome α)) : Routine σ (Outcome α) :=
  .locked (l.executeUnlocked body)

end ModbusLink

end HomeEnergy
