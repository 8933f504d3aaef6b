import HomeEnergy.Cache
import HomeEnergy.Http.Message
import HomeEnergy.Metrics
import HomeEnergy.Text.Percent

/-!
# The status page

The collector answers requests for the latest records of all modules or of one, for its metrics, and
whether it is alive. Everything is read from the cache and the metrics and nothing is changed.

## Main results

* `StatusPage.allRecords` — the records of all modules; one entry that is no document spoils it.
* `StatusPage.oneRecord` — the bytes of one module's entry as they are.
* `StatusPage.answer` — the answer to a request.
-/

namespace HomeEnergy.StatusPage

open Http

/-- What the paths stand for. -/
inductive Route where
  | allRecords
  /-- One module; the name is not read yet. -/
  | oneRecord (segment : String)
  | metrics
  | health
deriving DecidableEq, Repr

/-- The route of a path. -/
def route? (path : String) : Option Route :=
  if path = "/api/v1/state" then some .allRecords
  else if path = "/metrics" then some .metrics
  else if path = "/health" then some .health
  else
    match Text.after? "/api/v1/state/".toList path.toList with
    | some segment =>
      if segment ≠ [] ∧ '/' ∉ segment then some (.oneRecord (String.ofList segment)) else none
    | none => none

/-- Put together the documents of all entries. The first entry, in the order of names, that is no
document stops it. -/
def collect : List (String × ByteArray) → Outcome (List (String × Document))
  | [] => .ok []
  | (name, payload) :: rest =>
    match Json.readBytes payload with
    | none => .error (.serialization ("state of " ++ name ++ ": malformed record"))
    | some d => do return (name, d.sorted) :: (← collect rest)

/-- The records of all modules as one document. -/
def allRecords (c : Cache) : Outcome Document := (collect c.snapshot).map .map

/-- The answer that tells of a fault. -/
def faultAnswer (f : Fault) : Response :=
  .ofDocument f.status
    (.map [("error", .map [("code", .text f.code), ("message", .text f.message)])])

/-- The answer for one module. -/
def oneRecord (c : Cache) (name : String) : Response :=
  match c.get? name with
  | some payload => ⟨200, some "application/json", payload⟩
  | none => .ofText 404 ("data for module \"" ++ name ++ "\" not found")

/-- The answer to a reading request for a route. -/
def answerRoute (c : Cache) (m : Metrics) : Route → Response
  | .allRecords =>
    match allRecords c with
    | .ok d => .ofDocument 200 d
    | .error f => faultAnswer f
  | .oneRecord segment =>
    match Percent.text? segment with
    | some name => oneRecord c name
    | none => .ofText 400 "Invalid URL: the name of the module is not valid UTF-8"
  | .metrics =>
    ⟨200, some "text/plain; version=0.0.4",
      (String.join (m.exposition.map (· ++ "\n"))).toUTF8⟩
  | .health => .ofDocument 200 (.map [("status", .text "ok")])

/-- The answer to a request. A request for the head of an answer gets no body. -/
def answer (c : Cache) (m : Metrics) (r : Request) : Response :=
  match route? r.path with
  | none => .bare 404
  | some route =>
    if r.method = "GET" then answerRoute c m route
    else if r.method = "HEAD" then { answerRoute c m route with body := .empty }
    else .bare 405

end HomeEnergy.StatusPage
