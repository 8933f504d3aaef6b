import HomeEnergy.Proofs.Collector.Entries
import HomeEnergy.Proofs.House.Life

/-!
# The devices of a collector in a house

The pollers of a collector and its updater may live in a house, whatever the settings are and
whatever devices and the database answer. Two of them share a connection: the heating controller is
polled for readings, and the room temperature is written to it. All that this connection does is
done under its lock, which is given back behind each use.

## Main results

* `Collector.plain_residents` — all of them leave tasks alone and give the lock back.
* `Collector.lifetime_of_settings` — so they live as the modules of a house do.
-/

namespace HomeEnergy

open House (moduleAt opening Outside Lifetime)
open Routine (Interference Part Law taskless_of_bracketed)

variable {σ S ρ : Type}

/-- What is around a collector gives the lock back, and a controller leaves it alone. -/
structure Surroundings.Plain (around : Surroundings σ S) : Prop where
  send : ∀ settings call, Law.bracketed.holds (around.send settings call)
  controller : ∀ settings, (around.controller settings).Obeys .direct
  database : ∀ db ∈ around.database, db.Obeys .bracketed

/-- A poller in a house, where its place tells its task. -/
def Poller.resident (p : Poller σ ρ) : Resident σ :=
  .poller p.source p.sink p.ledger p.write p.interval

/-- An updater in a house. -/
def Updater.resident (u : Updater σ) : Resident σ := .updater u.action u.ledger u.interval

theorem Poller.plain_resident {p : Poller σ ρ} (hsource : p.source.Obeys .bracketed)
    (hsink : p.sink.Obeys .bracketed) : p.resident.Plain :=
  ⟨hsink.prepare, hsource.init, taskless_of_bracketed hsource.query,
    fun x => taskless_of_bracketed (hsink.write x)⟩

theorem Updater.plain_resident {u : Updater σ} (haction : u.action.Obeys .bracketed) :
    u.resident.Plain :=
  ⟨haction.init, taskless_of_bracketed haction.apply⟩

namespace Collector

variable {part : Part σ (Collector S)} {around : Surroundings σ S}

/-- The pollers and updaters of given settings, in their order. -/
def residents (part : Part σ (Collector S)) (around : Surroundings σ S) (s : CollectorSettings) :
    List (Resident σ) :=
  s.inverter.toList.map (fun d => (inverterPoller part around d 0).resident)
    ++ s.battery.toList.map (fun d => (batteryPoller part around d 0).resident)
    ++ s.stove.toList.map (fun d => (stovePoller part around d 0).resident)
    ++ s.heating.toList.flatMap fun d =>
      (heatingPoller part around d 0).resident
        :: d.rooms.toList.map fun r => (roomsUpdater part around d r 0).resident

theorem plain_httpLink (h : around.Plain) (settings : HttpSettings) (status : Part σ HttpStatus) :
    (httpLink around settings status).Obeys .bracketed where
  send := h.send settings
  update _ := Law.bracketed_change _
  report _ := Law.bracketed_change _
  log _ := Law.bracketed_change _

theorem direct_heatingLink (h : around.Plain) (s : HeatingSettings) :
    (heatingLink part around s).Obeys .direct where
  controller := h.controller s.link
  update _ := Law.direct_change _
  report _ := Law.direct_change _
  log _ := Law.direct_change _

theorem plain_residents (h : around.Plain) (s : CollectorSettings) :
    ∀ r ∈ residents part around s, r.Plain := by
  have htable : ∀ {ρ : Type} (t : Store.Table ρ), (t.place around.database).Obeys .bracketed :=
    Store.Table.obeys_place h.database
  simp only [residents, List.forall_mem_append, List.forall_mem_map, List.forall_mem_flatMap,
    List.forall_mem_cons, Option.mem_toList]
  refine ⟨⟨⟨?_, ?_⟩, ?_⟩, ?_⟩
  · intro d _
    exact Poller.plain_resident
      (Inverter.obeys_source (plain_httpLink h _ _) (plain_httpLink h _ _)) (htable _)
  · intro d _
    exact Poller.plain_resident (Battery.obeys_source (plain_httpLink h _ _)) (htable _)
  · intro d _
    exact Poller.plain_resident (Stove.obeys_source (plain_httpLink h _ _)) (htable _)
  · intro d _
    constructor
    · exact Poller.plain_resident
        (Heating.obeys_source (direct_heatingLink h d) Law.locks_bracketed) (htable _)
    · intro r _
      exact Updater.plain_resident
        (Heating.obeys_rooms (direct_heatingLink h d) Law.locks_bracketed)

theorem name_moduleAt (log : LogEntry → σ → σ) (m : Resident σ × Nat) :
    (moduleAt log m).name = m.1.name := by
  obtain ⟨r, k⟩ := m
  cases r <;> rfl

/-- In a house the modules have the names that the settings list. -/
theorem names_residents (log : LogEntry → σ → σ) (part : Part σ (Collector S))
    (around : Surroundings σ S) (s : CollectorSettings) :
    (House.modules log (residents part around s)).map (·.name)
      = { s with weather := none }.names := by
  have hname : (fun m : Module (House σ) => m.name) ∘ moduleAt log = Resident.name ∘ Prod.fst :=
    funext (name_moduleAt log)
  rw [House.modules, List.map_map, hname, ← List.map_map, List.zipIdx_map_fst]
  simp only [residents, CollectorSettings.names, List.map_append, List.map_map, List.map_flatMap,
    List.map_cons, Option.toList_none, List.map_nil, List.append_nil]
  rfl

/-- The pollers and updaters of any settings, whatever there is around them, live as the modules of
a house do: they are made ready, started and stopped, and behind the stop they do nothing. -/
theorem lifetime_of_settings (part : Part σ (Collector S)) (h : around.Plain)
    (s : CollectorSettings) (log : LogEntry → σ → σ) (report : Module (House σ) → Fault → LogEntry)
    (now : Nat) (world : σ) {others : House σ → House σ → Prop} (ho : Interference others)
    (hothers : ∀ h h', others h h' → Outside h h') :
    (House.modules log (residents part around s)).map (·.name)
        = (modules part around { s with weather := none }).map (·.name) ∧
      Lifetime log (residents part around s) others
        (opening log report (residents part around s) now world) :=
  ⟨(names_residents log part around s).trans (name_modules part around _).symm,
    House.lifetime_of_plain log report now world (plain_residents h s) ho hothers⟩

theorem plain_silence : silence.Plain where
  send _ _ := rfl
  controller _ := ⟨trivial, fun _ _ _ => trivial, fun _ _ _ => trivial⟩
  database _ hdb := nomatch hdb

/-- The heating controller and the updater that shares its connection. -/
theorem lifetime_of_settings_home :
    silence.Plain ∧
    (House.modules (fun _ c => c) (residents whole silence home)).map (·.name)
      = ["solvis", "solvis-updater"] ∧
    Lifetime (fun _ c => c) (residents whole silence home) Outside
      (opening (fun _ c => c) (fun m _ => m.lifeLine .error "module disabled")
        (residents whole silence home) 0 (start home)) := by
  obtain ⟨hnames, hlife⟩ := lifetime_of_settings whole plain_silence home (fun _ c => c)
    (fun m _ => m.lifeLine .error "module disabled") 0 (start home) House.interference_outside
    fun _ _ h => h
  exact ⟨plain_silence, hnames.trans (name_modules whole silence _), hlife⟩

end Collector

end HomeEnergy
