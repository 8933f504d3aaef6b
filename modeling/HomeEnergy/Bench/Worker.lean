import HomeEnergy.Module.Worker
import HomeEnergy.Routine.Schedule
import HomeEnergy.Routine.Retry

/-!
# Workers and attempts on the bench

A worker with a task of one of several kinds, and an operation that fails on demand.
-/

namespace HomeEnergy.Bench

/-- A worker and the rounds that its task has begun. -/
structure WorkerBench where
  worker : Worker
  ticks : Nat := 0

namespace WorkerBench

/-- The worker. -/
def part : Routine.Part WorkerBench Worker :=
  ⟨WorkerBench.worker, fun w b => { b with worker := w }⟩

/-- The task of a kind: it ends at once, waits to be stopped, sleeps, breaks down, or counts rounds
that take some time until it is stopped. -/
def body? (kind : String) (d : Span) : Option (Body WorkerBench) :=
  match kind with
  | "finish" | "panic" => some ⟨.once, .done ()⟩
  | "until_cancel" => some ⟨.idle, .done ()⟩
  | "sleep" => some ⟨.once, .pause d⟩
  | "ticks" => some ⟨.steady, do
      .change fun b => { b with ticks := b.ticks + 1 }
      .pause d⟩
  | _ => none

end WorkerBench

/-- An operation that succeeds or fails as it is told, and the times of its calls, latest first. -/
structure AttemptBench where
  outcomes : List Bool
  calls : List Nat := []

namespace AttemptBench

/-- A call. It yields its number. -/
def call : Routine AttemptBench (Except Nat Nat) := do
  let now ← .now
  .changeTelling (fun b => { b with calls := now :: b.calls }) fun b =>
    let n := b.calls.length
    if b.outcomes.getD n false then .ok n else .error n

end AttemptBench

end HomeEnergy.Bench
