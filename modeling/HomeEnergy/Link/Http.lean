import HomeEnergy.Document.Json.Reader
import HomeEnergy.Fault
import HomeEnergy.Link.Http.Settings
import HomeEnergy.Link.State
import HomeEnergy.Log.Entry
import HomeEnergy.Routine
import HomeEnergy.Text.Bytes

/-!
# HTTP connections

A connection holds a client as soon as the device has answered a first probe. A request that gets no
answer makes the connection fail, and the next use then starts with a probe. What an answer means is
left to the one who asked for it.

A connection belongs to one device and that to one poller, which makes it ready before its task is
started and then uses it once after the other. No two tasks share it, so that nobody ever has to
wait for it, and it takes no lock. That is different for a Modbus connection, which an updater
shares.

## Main results

* `HttpLink.init` — the first probe.
* `HttpLink.execute` — one use: at most one probe and one request.
-/

namespace HomeEnergy

open Routine (Part)

namespace Http

/-- A request to a device. -/
structure Call where
  method : Method
  url : String
  auth : Option BasicAuth
  body : Option Document := none

/-- Why a request got no answer. -/
inductive Loss where
  /-- The answer did not come in time. -/
  | late
  /-- There was no connection, or it broke. -/
  | unreachable (reason : String)
  /-- The request could not be sent at all. -/
  | unsendable (reason : String)

/-- An answer of a device. -/
structure Answer where
  /-- The address that answered. -/
  url : String
  status : Nat
  body : ByteArray := .empty
  /-- Whether the body came as a whole. -/
  intact : Bool := true

/-- Whether the status tells of success. -/
def Answer.isSuccess (a : Answer) : Bool := 200 ≤ a.status && a.status < 300

/-- The fault of a request to an address that got no answer. -/
def Loss.fault (url : String) : Loss → Fault
  | late => .timeout url
  | unreachable reason => .connectionFailed url reason
  | unsendable reason => .httpClient reason

/-- The body of an answer that succeeded. -/
def Answer.success (a : Answer) : Outcome ByteArray :=
  if a.status ≠ 200 then .error (.unexpectedStatus a.url a.status)
  else if a.intact then .ok a.body
  else .error (.httpClient "the body ended early")

/-- The document in an answer that succeeded, or the fault of the device that gave it. -/
def Answer.document (device : String) (a : Answer) : Outcome Document := do
  match Json.readBytes (← a.success) with
  | some d => .ok d
  | none => .error (.protocol device "invalid JSON: malformed")

/-- The text in an answer that succeeded. A mark of byte order in front is dropped. -/
def Answer.text (a : Answer) : Outcome String := do
  let text := Text.lenient (← a.success)
  .ok (String.ofList ((Text.after? ['\uFEFF'] text.toList).getD text.toList))

end Http

namespace HttpSettings

/-- The request that finds out whether the device is there. -/
def probe (s : HttpSettings) : Http.Call := ⟨.get, s.base ++ "/", s.auth, none⟩

/-- The request for data. Only a method that has a body sends one. -/
def call (s : HttpSettings) : Http.Call :=
  ⟨s.method, s.target, s.auth, match s.method with
    | .get => none
    | .post => s.body⟩

end HttpSettings

/-- What a connection knows. -/
structure HttpStatus where
  /-- Whether a client is held. -/
  client : Bool := false
  state : LinkState := .uninitialized
deriving DecidableEq, Repr, Inhabited

/-- A connection. -/
structure HttpLink (σ : Type) where
  settings : HttpSettings
  /-- Whether a client can be built for the settings, or why not. -/
  client : Except String Unit := .ok ()
  /-- Send a request and wait for what becomes of it. -/
  send : Http.Call → Routine σ (Except Http.Loss Http.Answer)
  status : Part σ HttpStatus
  /-- What becomes of an event. -/
  report : LinkEvent → σ → σ
  /-- What becomes of a log line. -/
  log : LogEntry → σ → σ := fun _ s => s

namespace HttpLink

variable {σ α : Type}

/-- Change what the connection knows. -/
def update (l : HttpLink σ) (f : HttpStatus → HttpStatus) : Routine σ Unit :=
  .change (l.status.modify f)

/-- What the connection knows. -/
def known (l : HttpLink σ) : Routine σ HttpStatus := do
  return l.status.get (← .look)

/-- Report an event. -/
def tell (l : HttpLink σ) (e : LinkEvent) : Routine σ Unit := .change (l.report e)

/-- Write a log line. -/
def note (l : HttpLink σ) (level : LogLevel) (text : String) : Routine σ Unit :=
  .change (l.log ⟨level, "homewatt_link::http", "[" ++ l.settings.name ++ "] " ++ text, []⟩)

/-- Find out whether the device is there. -/
def probe (l : HttpLink σ) : Routine σ (Outcome Unit) := do
  let call := l.settings.probe
  match ← l.send call with
  | .error loss => return .error (loss.fault call.url)
  | .ok answer =>
    if answer.isSuccess then return .ok ()
    else return .error (.unexpectedStatus call.url answer.status)

/-- Build a client and probe the device with it. -/
def approach (l : HttpLink σ) : Routine σ (Outcome Unit) :=
  match l.client with
  | .ok () => l.probe
  | .error reason =>
    pure (.error (.internal (l.settings.name ++ ": cannot build HTTP client: " ++ reason)))

/-- Probe the device, unless the connection is ready. A failure drops the client. -/
def init (l : HttpLink σ) : Routine σ (Outcome Unit) := do
  let status ← l.known
  if status.state = .ready ∧ status.client then return .ok ()
  l.note .info ("Initializing HTTP connection to " ++ l.settings.base)
  l.update ({ · with state := .initializing })
  match ← l.approach with
  | .ok () =>
    l.update fun _ => ⟨true, .ready⟩
    l.tell .initialized
    return .ok ()
  | .error f =>
    l.note .error ("HTTP connection test failed: " ++ f.message)
    l.update fun _ => ⟨false, .failed⟩
    l.tell .initFailed
    return .error f

/-- Make a connection that has failed ready again. The client is kept in any case. -/
def recover (l : HttpLink σ) : Routine σ (Outcome Unit) := do
  if (← l.known).state ≠ .failed then return .ok ()
  l.note .warn "Reinitializing HTTP connection"
  l.update ({ · with state := .initializing })
  match ← l.probe with
  | .ok () =>
    l.update ({ · with state := .ready })
    l.tell .reinitialized
    return .ok ()
  | .error f =>
    l.update ({ · with state := .failed })
    return .error f

/-- Send the request for data and hand its answer to a handler. -/
def request (l : HttpLink σ) (handler : Http.Answer → Routine σ (Outcome α)) :
    Routine σ (Outcome α) := do
  let call := l.settings.call
  match ← l.send call with
  | .ok answer => handler answer
  | .error loss =>
    l.note .error ("Error while executing HTTP request: " ++ (loss.fault call.url).message)
    l.update ({ · with state := .failed })
    l.tell .requestFailed
    return .error (loss.fault call.url)

/-- Use the connection once. Without a client nothing is sent. -/
def execute (l : HttpLink σ) (handler : Http.Answer → Routine σ (Outcome α)) :
    Routine σ (Outcome α) := do
  if !(← l.known).client then return .error (.notInitialized l.settings.name)
  match ← l.recover with
  | .error f => return .error f
  | .ok () => l.request handler

end HttpLink

end HomeEnergy
