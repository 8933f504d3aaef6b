import HomeEnergy.Proofs.Polling.Laws
import HomeEnergy.Proofs.Routine.Unhindered

/-!
# Houses under watch

A collector has any number of pollers and updaters (`Resident`). All of them work on one world, in
which they may share whatever they like: a device, the connection to it, a sink, the cache and the
counts. What the modules know of their tasks is kept beside the world, each under the number of its
module, and it is written down which initializations have begun and ended, and what the tasks do to
the world in their rounds.

Tasks and others leave alone what the modules know of their tasks and what is written down about
initializations (`House.Spares`).

## Main results

* `Resident.quiet_round` — that is all that a task does.
* `House.interference_spares` — what is spared stays so.
-/

namespace HomeEnergy

open Routine (Part Interference)

/-- What has become of the initialization of a module, told by its number. -/
inductive InitCall where
  | begun (module : Nat)
  | ended (module : Nat) (answer : Outcome Unit)

/-- What a task does in a round. -/
inductive RoundDeed where
  /-- Something is done with a device. -/
  | device
  /-- A record is put into the cache. -/
  | cached
  /-- A query is counted. -/
  | counted
  /-- Something is done with a sink. -/
  | written
deriving DecidableEq, Repr

/-- The state of a collector with any modules. -/
structure House (δ : Type) where
  /-- What each module knows of its task. -/
  workers : Nat → Worker
  /-- All that the modules work on. -/
  world : δ
  /-- In the order in which they were made. -/
  inits : List InitCall := []
  /-- What tasks have done, with the numbers of their modules, in the order in which it was done. -/
  deeds : List (Nat × RoundDeed) := []

/-- What a module is made of, on a world. -/
inductive Resident (δ : Type) where
  | poller {ρ : Type} (source : Source δ ρ) (sink : Sink δ ρ) (ledger : Ledger δ)
      (write : ρ → Outcome Document) (interval : Span)
  | updater (action : Action δ) (ledger : Ledger δ) (interval : Span)

variable {δ : Type}

/-! ## The state -/

namespace House

/-- The world. -/
def worldPart : Part (House δ) δ := ⟨House.world, fun d h => { h with world := d }⟩

/-- The world, with each change of it written down as a deed of a task. -/
def doing (k : Nat) (deed : RoundDeed) : Part (House δ) δ :=
  ⟨House.world, fun d h => { h with world := d, deeds := h.deeds ++ [(k, deed)] }⟩

/-- What a module knows of its task. -/
def workerPart (k : Nat) : Part (House δ) Worker :=
  ⟨fun h => h.workers k, fun w h => { h with workers := Function.update h.workers k w }⟩

/-- Write down what becomes of an initialization. -/
def note (call : InitCall) (h : House δ) : House δ := { h with inits := h.inits ++ [call] }

/-- The cache and the counts, for a task. -/
def ledger (k : Nat) (l : Ledger δ) : Ledger (House δ) where
  cache := (doing k .cached).inner l.cache
  metrics := (doing k .counted).inner l.metrics

/-- What is spared by tasks and by others. -/
structure Spares (h h' : House δ) : Prop where
  workers : h'.workers = h.workers
  inits : h'.inits = h.inits

theorem interference_spares : Interference (Spares (δ := δ)) where
  refl _ := ⟨rfl, rfl⟩
  trans h h' := ⟨h'.workers.trans h.workers, h'.inits.trans h.inits⟩

/-- The law that all tasks obey. -/
abbrev quiet : Routine.Law (House δ) := .quiet interference_spares.refl

/-- What others leave alone: they do not act for a task either. -/
structure Outside (h h' : House δ) : Prop extends Spares h h' where
  deeds : h'.deeds = h.deeds

theorem interference_outside : Interference (Outside (δ := δ)) where
  refl h := ⟨interference_spares.refl h, rfl⟩
  trans h h' := ⟨interference_spares.trans h.toSpares h'.toSpares, h'.deeds.trans h.deeds⟩

theorem spares_doing (k : Nat) (deed : RoundDeed) (f : δ → δ) (h : House δ) :
    Spares h ((doing k deed).modify f h) := ⟨rfl, rfl⟩

end House

open House (worldPart doing workerPart note Spares quiet)

/-! ## The modules -/

/-- A module whose initialization is written down. -/
def Module.noted (m : Module (House δ)) (k : Nat) : Module (House δ) :=
  { m with
    init := do
      .change (note (.begun k))
      let answer ← m.init
      .change (note (.ended k answer))
      return answer }

namespace Resident

/-- The name of a module. -/
def name : Resident δ → String
  | poller source _ _ _ _ => source.name
  | updater action _ _ => action.name

/-- The module with a number, which is that of its task, too. -/
def plain (k : Nat) : Resident δ → Module (House δ)
  | poller source sink ledger write interval =>
    Poller.toModule
      { source :=
          ⟨source.name, source.init.within worldPart, source.query.within (doing k .device)⟩
        sink :=
          ⟨sink.prepare.within worldPart, fun x => (sink.write x).within (doing k .written)⟩
        ledger := House.ledger k ledger
        write
        interval
        worker := workerPart k
        task := k }
  | updater action ledger interval =>
    Updater.toModule
      { action :=
          ⟨action.name, action.init.within worldPart, action.apply.within (doing k .device)⟩
        ledger := House.ledger k ledger
        interval
        worker := workerPart k
        task := k }

theorem worker_plain (r : Resident δ) (k : Nat) : (r.plain k).worker = workerPart k := by
  cases r <;> rfl

theorem start_plain (r : Resident δ) (k : Nat) :
    (r.plain k).start = Worker.start (workerPart k) k := by
  cases r <;> rfl

theorem abort_plain (r : Resident δ) (k : Nat) :
    (r.plain k).abort = Worker.abort (workerPart k) := by
  cases r <;> rfl

/-- The module with a number, which logs its life and whose initialization is written down. -/
def toModule (log : LogEntry → δ → δ) (k : Nat) (r : Resident δ) : Module (House δ) :=
  ((r.plain k).logged fun line => worldPart.modify (log line)).noted k

/-- Devices and sinks have nothing to do with tasks, and give the lock back before they are asked
for the next thing. In their rounds they may do with it what they like. -/
def Plain : Resident δ → Prop
  | poller source sink _ _ _ =>
    sink.prepare.Bracketed false ∧ source.init.Bracketed false ∧ source.query.Taskless ∧
      ∀ x, (sink.write x).Taskless
  | updater action _ _ => action.init.Bracketed false ∧ action.apply.Taskless

end Resident

namespace House

/-- A module, from what it is made of and its number. -/
def moduleAt (log : LogEntry → δ → δ) (m : Resident δ × Nat) : Module (House δ) :=
  m.1.toModule log m.2

/-- The modules of a house, each with the number of its place. -/
def modules (log : LogEntry → δ → δ) (residents : List (Resident δ)) : List (Module (House δ)) :=
  residents.zipIdx.map (moduleAt log)

/-- A house with all its modules, which are to be made ready. None of them has been used, and what
cannot be made ready is reported in the log. -/
def opening (log : LogEntry → δ → δ) (report : Module (House δ) → Fault → LogEntry)
    (residents : List (Resident δ)) (now : Nat) (world : δ) :
    Schedule (House δ) (List (Module (House δ))) where
  now
  state :=
    { workers := fun k => { name := (residents[k]?.map Resident.name).getD "" }
      world }
  main := .ready (Module.initAll (fun m f => .change (worldPart.modify (log (report m f))))
    (modules log residents))
  tasks := (modules log residents).map fun m => { body := m.body }

end House

/-! ## The rounds -/

open Routine (taskless_within keeps_within keeps_change)

/-- What a task does in a round is no matter of the other modules. -/
theorem Resident.quiet_round {r : Resident δ} (hplain : r.Plain) (log : LogEntry → δ → δ)
    (k : Nat) : (r.toModule log k).body.round.Quiet Spares := by
  have hdoing : ∀ {α : Type} (deed : RoundDeed) {p : Routine δ α}, p.Taskless →
      (p.within (doing k deed)).Quiet Spares :=
    fun deed p hp => ⟨taskless_within hp, keeps_within (House.spares_doing k deed) p⟩
  have hledger : ∀ (l : Ledger δ) (name : String), (House.ledger k l).Obeys quiet name := by
    intro l name
    constructor
    · intro answer
      exact ⟨fun _ => trivial, keeps_change fun _ => House.spares_doing k _ _ _⟩
    · intro payload
      exact ⟨fun _ => trivial, keeps_change fun _ => House.spares_doing k _ _ _⟩
  cases r with
  | poller source sink ledger write interval =>
      obtain ⟨-, -, hquery, hwrite⟩ := hplain
      refine quiet.seq (Poller.obeys_cycle (hdoing .device hquery) ?_ ?_) fun _ => quiet.value _
      · exact fun x => hdoing .written (hwrite x)
      · exact hledger ledger source.name
  | updater action ledger interval =>
      obtain ⟨-, happly⟩ := hplain
      refine quiet.seq (Updater.obeys_cycle (hdoing .device happly) ?_) fun _ => quiet.value _
      exact hledger ledger action.name

end HomeEnergy
