import HomeEnergy.Bench.Fault
import HomeEnergy.Module.Poller

/-!
# Polling and updating on the bench

A device whose queries, a sink whose writes and an action whose calls go as they are told. Queries
yield records with the number of the query in them, or a record that cannot be written.

## Main results

* `PollerBench.poller` — a poller between such a device and such a sink.
* `UpdaterBench.updater` — an updater with such an action.
-/

namespace HomeEnergy.Bench

open Routine (Part)

/-- The outcome of a kind: success, or the fault of that kind. -/
def outcome (kind : String) : Outcome Unit := if kind = "ok" then .ok () else .error (fault kind)

/-- The first outcome of those still to come; after them, success. -/
def nextOutcome (kinds : List String) : Outcome Unit := outcome (kinds.headD "ok")

/-- How a query goes: it takes some time, and then it has an outcome. -/
structure Reply where
  kind : String
  stall : Span := ⟨0⟩

/-- The reply that a document tells: a kind, or a kind as `result` and milliseconds. -/
def Reply.ofDocument : Document → Option Reply
  | .text kind => some { kind }
  | d => do
    let ms ← match d.get? "stall_ms" with
      | none => some 0
      | some v => v.natural? 64
    return ⟨← (← d.get? "result").text?, .ofMillis ms⟩

/-- A poller on the bench, and what is seen of it. -/
structure PollerBench where
  worker : Worker
  cache : Cache := .empty
  metrics : Metrics := .empty
  /-- Replies to the queries still to come. -/
  script : List Reply
  /-- Outcomes of the initializations still to come. -/
  inits : List String
  /-- Outcomes of the preparations still to come. -/
  prepares : List String
  sinkFails : Bool := false
  queries : Nat := 0
  /-- Times of queries, latest first. -/
  starts : List Nat := []
  /-- Records handed over, and whether each was in the cache by then, latest first. -/
  written : List (Nat × Bool) := []

namespace PollerBench

/-- The document of a record, which has a number if it has a document. -/
def document (record : Option Nat) : Outcome Document :=
  match record with
  | some n => .ok (.map [("sequence", .int n)])
  | none => .error (.serialization "no document")

/-- A query. -/
def query : Routine PollerBench (Outcome (Option Nat)) := do
  let now ← .now
  let (n, reply) ← .changeTelling
    (fun b => { b with
      queries := b.queries + 1, starts := now :: b.starts, script := b.script.tail })
    fun b => (b.queries + 1, b.script.headD ⟨"ok", ⟨0⟩⟩)
  if reply.stall.nanos ≠ 0 then .pause reply.stall
  if reply.kind = "unserializable" then return .ok none
  return (outcome reply.kind).map fun _ => some n

/-- A write. -/
def write (name : String) (record : Option Nat) : Routine PollerBench (Outcome Unit) :=
  .changeTelling
    (fun b => if b.sinkFails then b else
      let cached := match document record with
        | .ok d => b.cache.get? name == some (Json.bytes d)
        | .error _ => false
      { b with written := (record.getD 0, cached) :: b.written })
    fun b => if b.sinkFails then .error (fault "persistence") else .ok ()

/-- The poller. -/
def poller (name : String) (interval : Span) : Poller PollerBench (Option Nat) where
  source := {
    name, query
    init := .changeTelling (fun b => { b with inits := b.inits.tail }) (nextOutcome ·.inits) }
  sink := {
    write := write name
    prepare := .changeTelling (fun b => { b with prepares := b.prepares.tail })
      (nextOutcome ·.prepares) }
  ledger := {
    cache := ⟨PollerBench.cache, fun c b => { b with cache := c }⟩
    metrics := ⟨PollerBench.metrics, fun m b => { b with metrics := m }⟩ }
  write := document
  interval
  worker := ⟨PollerBench.worker, fun w b => { b with worker := w }⟩
  task := 0

end PollerBench

/-- An updater on the bench, and what is seen of it. -/
structure UpdaterBench where
  worker : Worker
  cache : Cache := .empty
  metrics : Metrics := .empty
  /-- Outcomes of the initializations still to come. -/
  inits : List String
  /-- How long the calls still to come take. -/
  stalls : List Span
  /-- Times of calls and what they found in the cache, latest first. -/
  applied : List (Nat × Document) := []

namespace UpdaterBench

/-- A call. It notes the time, waits and reads the cache. -/
def apply (source : String) : Routine UpdaterBench (Outcome Unit) := do
  let now ← .now
  let stall ← .changeTelling (fun b => { b with stalls := b.stalls.tail }) (·.stalls.headD ⟨0⟩)
  if stall.nanos ≠ 0 then .pause stall
  match (← .look).cache.read source some with
  | .error f => return .error f
  | .ok value =>
    .change fun b => { b with applied := (now, value) :: b.applied }
    return .ok ()

/-- The updater. -/
def updater (name source : String) (interval : Span) : Updater UpdaterBench where
  action := {
    name, apply := apply source
    init := .changeTelling (fun b => { b with inits := b.inits.tail }) (nextOutcome ·.inits) }
  ledger := {
    cache := ⟨UpdaterBench.cache, fun c b => { b with cache := c }⟩
    metrics := ⟨UpdaterBench.metrics, fun m b => { b with metrics := m }⟩ }
  interval
  worker := ⟨UpdaterBench.worker, fun w b => { b with worker := w }⟩
  task := 0

end UpdaterBench

end HomeEnergy.Bench
