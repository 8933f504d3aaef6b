import HomeEnergy.Document.Fields
import HomeEnergy.Text.Quoted
import HomeEnergy.Backoff

/-!
# Settings of a Modbus connection

Where a controller answers, how a session is checked before use, and how connecting is repeated.
-/

namespace HomeEnergy

namespace Backoff

/-- The policy that a document gives. -/
def ofDocument (surplus : Surplus) (d : Document) : Option Backoff := do
  let [attempts, delay] ← d.fields? surplus ["max_attempts", "base_delay"] | none
  return {
    maxAttempts := ← Document.optional ({} : Backoff).maxAttempts (Document.natural? 32) attempts
    baseDelay := ← Document.optional ({} : Backoff).baseDelay Document.span? delay }

/-- The document of a policy. -/
def toDocument (p : Backoff) : Document :=
  .map [("max_attempts", .int p.maxAttempts), ("base_delay", .text p.baseDelay.render)]

end Backoff

/-- The register read that shows whether a session is still alive. -/
structure LivenessProbe where
  address : Nat
  count : Nat := 2
deriving DecidableEq, Repr

/-- The settings of one Modbus connection. -/
structure ModbusSettings where
  name : String
  host : String
  port : Nat := 502
  unit : Nat := 255
  /-- Without a probe a session counts as alive. -/
  probe : Option LivenessProbe := none
  retry : Backoff := {}
  /-- For connecting and for each operation on registers. -/
  timeout : Span := Span.ofSeconds 5
deriving DecidableEq, Repr, Inhabited

namespace ModbusSettings

/-- Host and port. -/
def endpoint (s : ModbusSettings) : String := s.host ++ ":" ++ toString s.port

/-- How a connection with these settings is described. -/
def description (s : ModbusSettings) : String :=
  let probe := match s.probe with
    | none => "None"
    | some p => "Some(LivenessProbe \x7b address: " ++ toString p.address ++ ", count: "
        ++ toString p.count ++ " \x7d)"
  "ModbusConnection \x7b name: " ++ Text.quoted s.name ++ ", endpoint: "
    ++ Text.quoted s.endpoint ++ ", probe: " ++ probe ++ " \x7d"

/-- The probe that a document gives. -/
def probe? (d : Document) : Option LivenessProbe := do
  let [address, count] ← d.fields? .refused ["address", "count"] | none
  return {
    address := ← Document.required (Document.natural? 16) address
    count := ← Document.optional 2 (Document.natural? 16) count }

/-- The settings that a document gives. -/
def ofDocument (d : Document) : Option ModbusSettings := do
  let [name, host, port, unit, probe, retry, timeout] ←
    d.fields? .refused ["name", "host", "port", "unit_id", "probe", "retry", "timeout"] | none
  return {
    name := ← Document.required Document.text? name
    host := ← Document.required Document.text? host
    port := ← Document.optional 502 (Document.natural? 16) port
    unit := ← Document.optional 255 (Document.natural? 8) unit
    probe := ← Document.nullable probe? probe
    retry := ← Document.optional {} (Backoff.ofDocument .refused) retry
    timeout := ← Document.optional (Span.ofSeconds 5) Document.span? timeout }

end ModbusSettings

end HomeEnergy
