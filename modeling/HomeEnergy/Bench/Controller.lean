import HomeEnergy.Bench.Fault
import HomeEnergy.Link.Modbus
import HomeEnergy.Routine.Schedule

/-!
# A controller in memory

A Modbus controller whose registers are zero until they are written, and that refuses connections,
fails and answers short on demand. It keeps a log of what is asked of it. A read of holding
registers at the address of the probe is a probe, whoever asks.

## Main results

* `memoryController` — the controller in a part of a state.
-/

namespace HomeEnergy.Bench

open Routine (Part)

/-- A controller in memory. -/
structure Memory where
  /-- What has been written, latest first. -/
  registers : List (Nat × UInt16) := []
  refusals : Failures := {}
  failedProbes : Failures := {}
  failedOperations : Failures := {}
  /-- How many reads are answered short, and with how many words at most. -/
  short : Nat × Nat := (0, 0)
  connects : Nat := 0
  probes : Nat := 0
  /-- Latest first. -/
  log : List String := []
deriving Inhabited

namespace Memory

/-- The word in a register. -/
def word (m : Memory) (address : Nat) : UInt16 := (m.registers.lookup address).getD 0

/-- Write words from an address on. -/
def write (m : Memory) (address : Nat) (words : List UInt16) : Memory :=
  { m with registers := (words.zipIdx.map fun (w, i) => (address + i, w)).reverse ++ m.registers }

/-- Note a line. -/
def note (m : Memory) (line : String) : Memory := { m with log := line :: m.log }

/-- The words of a line. -/
def listed (words : List UInt16) : String :=
  "[" ++ ", ".intercalate (words.map toString) ++ "]"

/-- Open a session. -/
def connect (settings : ModbusSettings) (m : Memory) : Outcome Unit × Memory :=
  let m := { m with connects := m.connects + 1 }.note
    ("connect " ++ settings.endpoint ++ " unit " ++ toString settings.unit)
  match m.refusals.next? with
  | some f => (.error f, { m with refusals := m.refusals.used })
  | none => (.ok (), m)

/-- Words from an address on. -/
def words (m : Memory) (address count : Nat) : List UInt16 :=
  (List.range count).map fun i => m.word (address + i)

/-- A read that is no probe. -/
def readPlain (address count : Nat) (m : Memory) : Outcome (List UInt16) × Memory :=
  match m.failedOperations.next? with
  | some f => (.error f, { m with failedOperations := m.failedOperations.used })
  | none =>
    let (left, most) := m.short
    if left = 0 then (.ok (m.words address count), m)
    else (.ok (m.words address (min count most)), { m with short := (left - 1, most) })

/-- A read that is a probe. -/
def readProbe (address count : Nat) (m : Memory) : Outcome (List UInt16) × Memory :=
  let m := { m with probes := m.probes + 1 }
  match m.failedProbes.next? with
  | some f => (.error f, { m with failedProbes := m.failedProbes.used })
  | none => (.ok (m.words address count), m)

/-- A read of holding registers. -/
def readHolding (probe : Option Nat) (address count : Nat) (m : Memory) :
    Outcome (List UInt16) × Memory :=
  let m := m.note ("rh " ++ toString address ++ " " ++ toString count)
  if probe = some address then m.readProbe address count else m.readPlain address count

/-- A read of input registers. -/
def readInput (address count : Nat) (m : Memory) : Outcome (List UInt16) × Memory :=
  (m.note ("ri " ++ toString address ++ " " ++ toString count)).readPlain address count

/-- A write, noted under the short name of the operation. -/
def store (operation : String) (address : Nat) (words : List UInt16) (m : Memory) :
    Outcome Unit × Memory :=
  let m := m.note (operation ++ " " ++ toString address ++ " " ++ listed words)
  match m.failedOperations.next? with
  | some f => (.error f, { m with failedOperations := m.failedOperations.used })
  | none => (.ok (), m.write address words)

end Memory

/-- A step on the memory. -/
def onMemory {σ α : Type} (part : Part σ Memory) (f : Memory → α × Memory) : Routine σ α :=
  .changeTelling (part.modify fun m => (f m).2) fun s => (f (part.get s)).1

/-- The controller in a part of a state. -/
def memoryController {σ : Type} (settings : ModbusSettings) (part : Part σ Memory) :
    Controller σ Unit where
  connect := onMemory part (·.connect settings)
  readHolding _ address count :=
    onMemory part (·.readHolding (settings.probe.map (·.address)) address count)
  readInput _ address count := onMemory part (·.readInput address count)
  writeSingle _ address word := onMemory part (·.store "ws" address [word])
  writeMultiple _ address words := onMemory part (·.store "wm" address words)

/-! ## Commands -/

/-- A field of a command, or its name if it is not what it should be. -/
def field {α : Type} (d : Document) (name : String) (read : Document → Option α)
    (default : Option α) : Except String α :=
  match d.get? name, default with
  | none, some a => .ok a
  | none, none => .error name
  | some v, _ =>
    match read v with
    | some a => .ok a
    | none => .error name

/-- The words that a document gives. -/
def words? : Document → Option (List UInt16)
  | .list items => items.mapM fun d => (d.natural? 16).map UInt16.ofNat
  | _ => none

/-- Tell the controller what to do: set registers, or fail so many times. Other commands are none of
its own. -/
def Memory.command? (m : Memory) (what : String) (d : Document) :
    Option (Except String Memory) :=
  let failures (kind : String) : Except String Failures := do
    return ⟨← field d "n" (Document.natural? 32) (some 1),
      ← field d "error" Document.text? (some kind)⟩
  match what with
  | "set" => some do
    return m.write (← field d "address" (Document.natural? 16) none)
      (← field d "values" words? none)
  | "refuse" => some do return { m with refusals := ← failures "connection" }
  | "fail_probe" => some do return { m with failedProbes := ← failures "modbus" }
  | "fail_ops" => some do return { m with failedOperations := ← failures "modbus" }
  | "short" => some do
    return { m with
      short := (← field d "n" (Document.natural? 32) (some 1),
        ← field d "words" (Document.natural? 32) none) }
  | _ => none

/-! ## A connection on the bench -/

/-- A connection to a controller in memory, and what is seen of it. -/
structure ModbusBench where
  status : ModbusStatus Unit := {}
  memory : Memory := {}
  /-- Connections and events, latest first. -/
  events : List (String × LinkEvent) := []
  /-- Uses that are going on. -/
  uses : Nat := 0
  /-- The largest number of uses that have gone on at once. -/
  mostUses : Nat := 0
  /-- The uses that are over, latest first. -/
  finished : List Nat := []
  /-- What uses have yielded. -/
  results : List (Nat × Outcome Unit) := []
deriving Inhabited

namespace ModbusBench

/-- The connection. -/
def link (settings : ModbusSettings) (observed : Bool) : ModbusLink ModbusBench Unit where
  settings
  controller := memoryController settings ⟨ModbusBench.memory, fun m b => { b with memory := m }⟩
  status := ⟨ModbusBench.status, fun s b => { b with status := s }⟩
  report e b := if observed then { b with events := (settings.name, e) :: b.events } else b

/-- A use that holds the session for a while and then writes its number into the register of that
number. -/
def use (link : ModbusLink ModbusBench Unit) (hold : Span) (i : Nat) :
    Routine ModbusBench Unit := do
  let result ← link.execute fun session => do
    .change fun b => { b with uses := b.uses + 1, mostUses := max b.mostUses (b.uses + 1) }
    .pause hold
    let written ← link.controller.writeSingle session i (UInt16.ofNat i)
    .change fun b => { b with uses := b.uses - 1, finished := i :: b.finished }
    return written
  .change fun b => { b with results := (i, result) :: b.results }

end ModbusBench

/-! ## Uses at once -/

/-- Wait until tasks have ended. -/
def joinAll {σ : Type} : List Nat → Routine σ Unit
  | [] => .done ()
  | task :: rest => .join task (joinAll rest)

/-- Let tasks begin and go on. -/
def launchAll {σ : Type} (next : Routine σ Unit) : List Nat → Routine σ Unit
  | [] => next
  | task :: rest => .launch task (launchAll next rest)

/-- Let tasks begin and wait until all of them have ended. -/
def runAll {σ : Type} (tasks : List Nat) : Routine σ Unit := launchAll (joinAll tasks) tasks

/-- So many uses at once, as new tasks of a schedule, and the routine that lets them begin. -/
def manyUses {α : Type} (link : ModbusLink ModbusBench Unit) (hold : Span) (n : Nat)
    (s : Schedule ModbusBench α) : Schedule ModbusBench α × Routine ModbusBench Unit :=
  let fresh := { s with state := { s.state with
    uses := 0, mostUses := 0, finished := [], results := [] } }
  let bodies : List (Body ModbusBench) :=
    (List.range n).map fun i => ⟨.once, ModbusBench.use link hold i⟩
  (bodies.foldl (fun s b => (s.enrol b).1) fresh,
    runAll ((List.range n).map (s.tasks.length + ·)))

end HomeEnergy.Bench
