/-!
# Faults

Everything that can go wrong while devices are read, records stored and settings loaded. A fault is
a cause; its wording, its short code, its category and what a status page answers for it are
functions of the cause.

## Main results

* `Fault.message`, `Fault.code` — the wording and the short code.
* `Fault.retryable` — whether a fault is worth another attempt.
-/

namespace HomeEnergy

/-- A cause of failure. -/
inductive Fault where
  /-- A component was used before it was made ready. -/
  | notInitialized (component : String)
  | connectionFailed (endpoint reason : String)
  | timeout (endpoint : String)
  | modbus (detail : String)
  | httpClient (detail : String)
  | unexpectedStatus (endpoint : String) (status : Nat)
  /-- A device answered something that makes no sense. -/
  | protocol (device message : String)
  | missingField (device field : String)
  | notFound (resource : String)
  | database (detail : String)
  | persistence (detail : String)
  | configuration (detail : String)
  | invalidConfig (field reason : String)
  | io (detail : String)
  | serialization (detail : String)
  | internal (detail : String)
  /-- A fault known by its text only. -/
  | other (text : String)
deriving DecidableEq, Repr, Inhabited

/-- The kinds of faults that are handled alike. -/
inductive FaultCategory where
  | notInitialized
  | transport
  | protocol
  | persistence
  | configuration
  | internal
deriving DecidableEq, Repr

/-- The name of a category. -/
def FaultCategory.name : FaultCategory → String
  | .notInitialized => "NotInitialized"
  | .transport => "Transport"
  | .protocol => "Protocol"
  | .persistence => "Persistence"
  | .configuration => "Configuration"
  | .internal => "Internal"

namespace Fault

/-- The wording of a fault. -/
def message : Fault → String
  | notInitialized component => component ++ " is not initialized"
  | connectionFailed endpoint reason => "Connection failed: " ++ endpoint ++ ": " ++ reason
  | timeout endpoint => "Timeout waiting for response from " ++ endpoint
  | modbus detail => "Modbus error: " ++ detail
  | httpClient detail => "HTTP client error: " ++ detail
  | unexpectedStatus endpoint status =>
    "Unexpected HTTP status " ++ toString status ++ " from " ++ endpoint
  | protocol device message => "Protocol error: " ++ device ++ ": " ++ message
  | missingField device field => "Missing field in " ++ device ++ " payload: " ++ field
  | notFound resource => "Not found: " ++ resource
  | database detail => "Database error: " ++ detail
  | persistence detail => "Persistence error: " ++ detail
  | configuration detail => "Configuration error: " ++ detail
  | invalidConfig field reason => "Invalid configuration: " ++ field ++ ": " ++ reason
  | io detail => "IO error: " ++ detail
  | serialization detail => "Serialization error: " ++ detail
  | internal detail => "Internal error: " ++ detail
  | other text => text

/-- The short code of a fault. -/
def code : Fault → String
  | notInitialized .. => "NOT_INITIALIZED"
  | connectionFailed .. => "CONNECTION_FAILED"
  | timeout .. => "TIMEOUT"
  | modbus .. => "MODBUS_ERROR"
  | httpClient .. => "HTTP_CLIENT_ERROR"
  | unexpectedStatus .. => "UNEXPECTED_STATUS"
  | protocol .. => "PROTOCOL_ERROR"
  | missingField .. => "MISSING_FIELD"
  | notFound .. => "NOT_FOUND"
  | database .. => "DATABASE_ERROR"
  | persistence .. => "PERSISTENCE_ERROR"
  | configuration .. => "CONFIG_ERROR"
  | invalidConfig .. => "INVALID_CONFIG"
  | io .. => "IO_ERROR"
  | serialization .. => "SERIALIZATION_ERROR"
  | internal .. => "INTERNAL_ERROR"
  | other .. => "UNKNOWN_ERROR"

/-- The category of a fault. -/
def category : Fault → FaultCategory
  | notInitialized .. => .notInitialized
  | connectionFailed .. | timeout .. | modbus .. | httpClient .. => .transport
  | unexpectedStatus .. | protocol .. | missingField .. | notFound .. => .protocol
  | database .. | persistence .. => .persistence
  | configuration .. | invalidConfig .. => .configuration
  | io .. | serialization .. | internal .. | other .. => .internal

/-- The HTTP status that a status page answers for a fault. -/
def status (f : Fault) : Nat :=
  match f with
  | notFound .. => 404
  | notInitialized .. => 503
  | timeout .. => 504
  | _ =>
    match f.category with
    | .transport | .protocol => 502
    | _ => 500

/-- Whether another attempt may succeed. -/
def retryable (f : Fault) : Bool := f.category == .transport

/-- The level under which a fault is logged. -/
def level (f : Fault) : String :=
  match f.category with
  | .internal | .persistence | .configuration => "ERROR"
  | _ => "WARN"

end Fault

/-- What an operation yields: a value, or the fault that stopped it. -/
abbrev Outcome (α : Type) := Except Fault α

end HomeEnergy
