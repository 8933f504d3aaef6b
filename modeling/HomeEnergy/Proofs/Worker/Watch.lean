import HomeEnergy.Proofs.Collector.Laws
import HomeEnergy.Proofs.Routine.Rely
import HomeEnergy.Proofs.Worker.Stop

/-!
# Modules under watch

Three kinds of module own a worker: pollers, updaters and the receiver of uploads. They differ in
what initialization goes through, and the receiver has a listener that its start takes over.
`Plan.toModule` is a module of any kind on arbitrary devices. What its initialization asks of them
is written down, with the answers.

The worker, the listener and what is written down are the module's own: others, its task included,
keep away from them (`ModuleWatch.Spares`).

## Main results

* `ModuleWatch.keeps_round`, `ModuleWatch.keeps_answer` — its task does.
* `ModuleWatch.interference_around` — what happens around a module adds up.
* `ModuleWatch.Forward` — what each step of a call does.
-/

namespace HomeEnergy

open Routine (Part)

/-- What initialization of a module asks for. -/
inductive InitStep where
  /-- The sink is to be made ready. -/
  | prepare
  /-- The device is to be made ready. -/
  | meet
  /-- A listener is to be opened. -/
  | listen
deriving DecidableEq, Repr

/-- What initialization does. -/
inductive InitDeed where
  | asked (step : InitStep)
  | answered (step : InitStep) (answer : Outcome Unit)

/-- A module with all that it works on, and what its initializations have done. -/
structure ModuleWatch (δ : Type) where
  worker : Worker
  /-- Whether a listener is open that no task has taken over yet. -/
  listening : Bool := false
  cache : Cache := .empty
  metrics : Metrics := .empty
  device : δ
  /-- In the order in which they were done. -/
  deeds : List InitDeed := []

/-- What a module is made of. -/
inductive Plan (δ : Type) where
  | poller {ρ : Type} (source : Source δ ρ) (sink : Sink δ ρ) (write : ρ → Outcome Document)
      (interval : Span)
  | updater (action : Action δ) (interval : Span)
  | receiver (settings : WeatherSettings) (sink : Sink δ Weather.Record)
      (bind : String → Routine δ (Outcome Unit))

variable {δ ρ : Type}

namespace ModuleWatch

/-- Write down a deed. -/
def note (d : InitDeed) (w : ModuleWatch δ) : ModuleWatch δ := { w with deeds := w.deeds ++ [d] }

/-- The devices and the sink. -/
def devicePart : Part (ModuleWatch δ) δ := ⟨ModuleWatch.device, fun d w => { w with device := d }⟩

/-- The worker. -/
def workerPart : Part (ModuleWatch δ) Worker :=
  ⟨ModuleWatch.worker, fun v w => { w with worker := v }⟩

/-- Whether there is a listener. -/
def listeningPart : Part (ModuleWatch δ) Bool :=
  ⟨ModuleWatch.listening, fun b w => { w with listening := b }⟩

/-- The cache and the metrics. -/
def ledger : Ledger (ModuleWatch δ) where
  cache := ⟨ModuleWatch.cache, fun c w => { w with cache := c }⟩
  metrics := ⟨ModuleWatch.metrics, fun m w => { w with metrics := m }⟩

/-- A step of initialization under watch. -/
def doing (step : InitStep) (p : Routine δ (Outcome Unit)) :
    Routine (ModuleWatch δ) (Outcome Unit) := do
  .change (note (.asked step))
  let answer ← p.within devicePart
  .change (note (.answered step answer))
  return answer

/-- A sink under watch. -/
def sink (k : Sink δ ρ) : Sink (ModuleWatch δ) ρ :=
  ⟨doing .prepare k.prepare, fun x => (k.write x).within devicePart⟩

/-- A device under watch. -/
def source (s : Source δ ρ) : Source (ModuleWatch δ) ρ :=
  ⟨s.name, doing .meet s.init, s.query.within devicePart⟩

/-- An action under watch. -/
def action (a : Action δ) : Action (ModuleWatch δ) :=
  ⟨a.name, doing .meet a.init, a.apply.within devicePart⟩

/-- A receiver under watch. -/
def receiver (settings : WeatherSettings) (k : Sink δ Weather.Record)
    (bind : String → Routine δ (Outcome Unit)) (task : Nat) : Receiver (ModuleWatch δ) where
  settings
  sink := sink k
  ledger
  bind address := doing .listen (bind address)
  listening := listeningPart
  worker := workerPart
  task

end ModuleWatch

namespace Plan

open ModuleWatch (workerPart ledger)

/-- The module of a plan, with the number of its task. -/
def toModule (task : Nat) : Plan δ → Module (ModuleWatch δ)
  | poller s k write interval =>
    Poller.toModule
      ⟨ModuleWatch.source s, ModuleWatch.sink k, ledger, write, interval, workerPart, task⟩
  | updater a interval =>
    Updater.toModule ⟨ModuleWatch.action a, ledger, interval, workerPart, task⟩
  | receiver settings k bind => (ModuleWatch.receiver settings k bind task).toModule

/-- Whether a module has a listener. -/
def listens : Plan δ → Bool
  | poller _ _ _ _ | updater _ _ => false
  | receiver _ _ _ => true

/-- The steps of initialization, in their order. A listener that is open is not opened again. -/
def steps (listening : Bool) : Plan δ → List InitStep
  | poller _ _ _ _ => [.prepare, .meet]
  | updater _ _ => [.meet]
  | receiver _ _ _ => if listening then [.prepare] else [.prepare, .listen]

/-- Making ready has nothing to do with tasks. -/
def Plain : Plan δ → Prop
  | poller s k _ _ => k.prepare.Taskless ∧ s.init.Taskless
  | updater a _ => a.init.Taskless
  | receiver settings k bind => k.prepare.Taskless ∧ (bind settings.listen).Taskless

end Plan

theorem ModuleState.rank_le (state : ModuleState) : state.rank ≤ stopped.rank := by
  cases state <;> decide

theorem ModuleState.rank_le_of_ne_stopped {state : ModuleState} (h : state ≠ stopped) :
    state.rank ≤ aborting.rank := by
  cases state with
  | stopped => exact absurd rfl h
  | constructed | initialized | running | aborting => decide

/-- What may be asked of a module. -/
inductive Request where
  | init
  | start
  | abort
  | wait
deriving DecidableEq, Repr

namespace ModuleWatch

/-! ## What others do, and what a call may do -/

/-- What others may do to a module: its worker, its listener and what is written down are its
own. -/
structure Spares (w w' : ModuleWatch δ) : Prop where
  worker : w'.worker = w.worker
  listening : w'.listening = w.listening
  deeds : w'.deeds = w.deeds

theorem Spares.refl (w : ModuleWatch δ) : Spares w w := ⟨rfl, rfl, rfl⟩

theorem Spares.trans {u v w : ModuleWatch δ} (h : Spares u v) (h' : Spares v w) : Spares u w :=
  ⟨h'.worker.trans h.worker, h'.listening.trans h.listening, h'.deeds.trans h.deeds⟩

theorem interference_spares : Routine.Interference (Spares (δ := δ)) := ⟨.refl, .trans⟩

/-! ## What the module's own task does -/

theorem keeps_device {α : Type} (p : Routine δ α) : (p.within devicePart).Keeps Spares :=
  Routine.keeps_within (fun _ _ => ⟨rfl, rfl, rfl⟩) p

theorem obeys_ledger (name : String) : (ledger (δ := δ)).Obeys (.keeps Spares.refl) name where
  count _ := Routine.keeps_change fun _ => ⟨rfl, rfl, rfl⟩
  put _ := Routine.keeps_change fun _ => ⟨rfl, rfl, rfl⟩

/-- A round of the task spares what is the module's own. -/
theorem keeps_round (plan : Plan δ) (task : Nat) :
    (plan.toModule task).body.round.Keeps Spares := by
  have hend : ∀ {α : Type} {p : Routine (ModuleWatch δ) α}, p.Keeps Spares →
      (p >>= fun _ => (pure () : Routine (ModuleWatch δ) Unit)).Keeps Spares :=
    fun hp => Routine.keeps_do hp fun _ => Routine.keeps_pure _
  cases plan with
  | poller s k write interval =>
      exact hend (Poller.obeys_cycle (r := .keeps Spares.refl) (keeps_device _)
        (fun _ => keeps_device _) (obeys_ledger _))
  | updater a interval =>
      exact hend (Updater.obeys_cycle (r := .keeps Spares.refl) (keeps_device _) (obeys_ledger _))
  | receiver _ _ _ => exact trivial

/-- And so does an answer of a receiver. -/
theorem keeps_answer (settings : WeatherSettings) (k : Sink δ Weather.Record)
    (bind : String → Routine δ (Outcome Unit)) (task : Nat) (query : String) :
    ((receiver settings k bind task).answer query).Keeps Spares :=
  Receiver.obeys_answer (r := .keeps Spares.refl) (v := receiver settings k bind task)
    (fun _ => keeps_device _) (obeys_ledger _) query

/-- What may happen around a module. -/
abbrev Around : Scene (ModuleWatch δ) → Scene (ModuleWatch δ) → Prop := Scene.Amid Spares

theorem interference_around : Routine.Interference (Around (δ := δ)) :=
  Scene.interference_amid interference_spares

/-- What spares a module may happen around it, from its beginning to its end. -/
theorem around_alone {α : Type} {p : Routine (ModuleWatch δ) α} (hp : p.Keeps Spares) (now : Nat)
    (s : Scene (ModuleWatch δ)) : Around s (s.change fun w => (p.alone now w).2.2) :=
  ⟨Routine.keeps_alone interference_spares hp now s.state, .refl _⟩

/-- Since a moment deeds have been done, and nothing else has happened to a module. -/
structure Since (news : List InitDeed) (s t : Scene (ModuleWatch δ)) : Prop where
  worker : t.state.worker = s.state.worker
  listening : t.state.listening = s.state.listening
  deeds : t.state.deeds = s.state.deeds ++ news
  spawned : Fading s.spawned t.spawned

/-- What each step of a call does: the worker goes on in its life, it is about to stop only if it is
asked to, and a task is launched only as the first one, by a worker that is ready. -/
structure Forward (q : Request) (s t : Scene (ModuleWatch δ)) : Prop where
  rank : s.state.worker.state.rank ≤ t.state.worker.state.rank
  aborting : t.state.worker.state = .aborting → s.state.worker.state = .aborting ∨ q = .abort
  spawned : t.spawned = s.spawned ∨
    s.state.worker.state = .initialized ∧ s.spawned = [] ∧ ∃ i, t.spawned = [⟨i, none⟩]

variable {s t u : Scene (ModuleWatch δ)} {news more : List InitDeed} {q : Request}

theorem Around.since (h : Around s t) : Since [] s t :=
  ⟨h.state.worker, h.state.listening, by rw [h.state.deeds, List.append_nil], h.spawned⟩

theorem Since.around (h : Since [] s t) : Around s t :=
  ⟨⟨h.worker, h.listening, by rw [h.deeds, List.append_nil]⟩, h.spawned⟩

theorem Since.trans (h : Since news s t) (h' : Since more t u) : Since (news ++ more) s u where
  worker := h'.worker.trans h.worker
  listening := h'.listening.trans h.listening
  deeds := by rw [h'.deeds, h.deeds, List.append_assoc]
  spawned := h.spawned.trans h'.spawned

theorem Since.after (h : Since news s t) (h' : Around t u) : Since news s u := by
  have := h.trans h'.since
  rwa [List.append_nil] at this

/-- A step that leaves the worker alone. -/
theorem forward_of_same {f : ModuleWatch δ → ModuleWatch δ}
    (h : (f t.state).worker = t.state.worker) : Forward q t (t.change f) := by
  have hworker : (t.change f).state.worker = t.state.worker := h
  exact ⟨Nat.le_of_eq (by rw [hworker]), fun h => .inl (by rw [← hworker]; exact h),
    .inl rfl⟩

/-- A step that changes only what the worker knows. -/
theorem forward_of_worker {g : Worker → Worker}
    (hrank : t.state.worker.state.rank ≤ (g t.state.worker).state.rank)
    (haborting : (g t.state.worker).state = .aborting →
      t.state.worker.state = .aborting ∨ q = .abort) :
    Forward q t (t.change (workerPart.modify g)) :=
  ⟨hrank, haborting, .inl rfl⟩

theorem forward_refl (t : Scene (ModuleWatch δ)) : Forward q t t :=
  ⟨Nat.le_refl _, .inl, .inl rfl⟩

theorem since_note (d : InitDeed) : Since [d] t (t.change (note d)) :=
  ⟨rfl, rfl, rfl, .refl _⟩

theorem around_device (f : δ → δ) (t : Scene (ModuleWatch δ)) :
    Around t (t.change (devicePart.modify f)) ∧ Forward q t (t.change (devicePart.modify f)) :=
  ⟨⟨⟨rfl, rfl, rfl⟩, .refl _⟩, forward_of_same rfl⟩

end ModuleWatch

end HomeEnergy
