import HomeEnergy.Fault

/-!
# Faults made to order

The peers of a bench fail on demand, with one fault for each kind that is told apart.
-/

namespace HomeEnergy.Bench

/-- The fault of a kind. -/
def fault : String → Fault
  | "not_initialized" => .notInitialized "fake"
  | "connection" => .connectionFailed "fake:1" "connection refused"
  | "timeout" => .timeout "fake:1"
  | "modbus" => .modbus "broken pipe"
  | "status" => .unexpectedStatus "fake:1" 500
  | "protocol" => .protocol "fake" "short read"
  | "missing_field" => .missingField "fake" "x"
  | "not_found" => .notFound "thing"
  | "persistence" => .persistence "database unavailable"
  | "configuration" => .configuration "bad"
  | _ => .internal "boom"

/-- The fault of a cause, with up to two texts and a number that say more about it. -/
def faultOf? (cause a b : String) (status : Nat) : Option Fault :=
  match cause with
  | "NotInitialized" => some (.notInitialized a)
  | "ConnectionFailed" => some (.connectionFailed a b)
  | "Timeout" => some (.timeout a)
  | "Modbus" => some (.modbus a)
  | "HttpClient" => some (.httpClient "*")
  | "UnexpectedStatus" => some (.unexpectedStatus a status)
  | "Protocol" => some (.protocol a b)
  | "ProtocolFmt" => some (.protocol a ("unknown value prefix " ++ b))
  | "MissingField" => some (.missingField a b)
  | "NotFound" => some (.notFound a)
  | "Database" => some (.database "*")
  | "Persistence" => some (.persistence a)
  | "Configuration" => some (.configuration a)
  | "ConfigurationFmt" => some (.configuration ("bad interval: " ++ a))
  | "InvalidConfig" => some (.invalidConfig a b)
  | "Io" => some (.io a)
  | "Serialization" => some (.serialization a)
  | "Internal" => some (.internal a)
  | "Other" => some (.other a)
  | _ => none

/-- A number of failures that are still to come. -/
structure Failures where
  left : Nat := 0
  kind : String := ""
deriving Inhabited

/-- One failure less. -/
def Failures.used (f : Failures) : Failures := { f with left := f.left - 1 }

/-- The fault of the next failure, if there is one. -/
def Failures.next? (f : Failures) : Option Fault :=
  if f.left = 0 then none else some (fault f.kind)

end HomeEnergy.Bench
