import HomeEnergy.Proofs.Collector.Laws
import HomeEnergy.Proofs.Routine.Ends
import HomeEnergy.Proofs.Settings.Sensible

/-!
# Names and entries of the modules of a collector

The modules that follow from settings bear the names that the settings list, in the same order, and
put records into the cache under their own names only (`Collector.OwnEntry`). So, where the checks
accept the settings, no two modules share an entry of the cache, and no module asks for a ticker
without a period.

What is around a collector, the network and the database, has nothing to do with its cache
(`Surroundings.Keeps` with `Collector.SameCache`).

## Main results

* `Collector.module_keeps` — each change of a module leaves the entries of other names alone.
* `Collector.modules_of_validate` — what the checks of settings are for.
-/

namespace HomeEnergy

open Routine (Part keeps_do keeps_change keeps_pure keeps_look)

variable {σ S α : Type} {R Q : σ → σ → Prop}

/-- A change of one kind is one of a wider kind. -/
theorem Routine.Keeps.imp (h : ∀ s t, R s t → Q s t) {p : Routine σ α} (hp : p.Keeps R) :
    p.Keeps Q := by
  induction p with
  | done a => exact trivial
  | act change next ih => exact fun s => ⟨h _ _ (hp s).1, ih s (hp s).2⟩
  | clock next ih => exact fun t => ih t (hp t)
  | sleep _ _ ih => exact ih hp
  | acquire _ ih => exact ih hp
  | release _ ih => exact ih hp
  | launch _ _ ih => exact ih hp
  | cancel _ _ ih => exact ih hp
  | join _ _ ih => exact ih hp

/-! ## Surroundings -/

/-- Each change that a controller makes is of one kind. -/
structure Controller.Keeps (R : σ → σ → Prop) (c : Controller σ S) : Prop where
  connect : c.connect.Keeps R
  readHolding : ∀ s a n, (c.readHolding s a n).Keeps R
  readInput : ∀ s a n, (c.readInput s a n).Keeps R
  writeSingle : ∀ s a w, (c.writeSingle s a w).Keeps R
  writeMultiple : ∀ s a ws, (c.writeMultiple s a ws).Keeps R

theorem Controller.Keeps.obeys {c : Controller σ S} (h : c.Keeps R) (hrefl : ∀ s, R s s) :
    c.Obeys (.keeps hrefl) :=
  ⟨h.connect, h.readHolding, h.writeSingle⟩

namespace Store

/-- Each change that a database makes is of one kind. -/
structure Database.Keeps (R : σ → σ → Prop) (db : Database σ) : Prop where
  run : ∀ statement, (db.run statement).Keeps R
  begin : db.begin.Keeps R
  within : ∀ statement, (db.within statement).Keeps R
  commit : db.commit.Keeps R
  rollback : db.rollback.Keeps R

theorem Database.Keeps.obeys {db : Database σ} (h : db.Keeps R) (hrefl : ∀ s, R s s) :
    db.Obeys (.keeps hrefl) :=
  ⟨h.run, h.begin, h.within, h.commit, h.rollback⟩

end Store

/-- Each change that is made around a collector is of one kind. -/
structure Surroundings.Keeps (R : σ → σ → Prop) (around : Surroundings σ S) : Prop where
  send : ∀ settings call, (around.send settings call).Keeps R
  controller : ∀ settings, (around.controller settings).Keeps R
  bind : ∀ address, (around.bind address).Keeps R
  database : ∀ db ∈ around.database, db.Keeps R
  report : ∀ name e s, R s (around.report name e s)
  log : ∀ e s, R s (around.log e s)

theorem Surroundings.Keeps.imp (h : ∀ s t, R s t → Q s t) {around : Surroundings σ S}
    (ha : around.Keeps R) : around.Keeps Q where
  send settings call := (ha.send settings call).imp h
  controller settings := {
    connect := (ha.controller settings).connect.imp h
    readHolding := fun s a n => ((ha.controller settings).readHolding s a n).imp h
    readInput := fun s a n => ((ha.controller settings).readInput s a n).imp h
    writeSingle := fun s a w => ((ha.controller settings).writeSingle s a w).imp h
    writeMultiple := fun s a ws => ((ha.controller settings).writeMultiple s a ws).imp h }
  bind address := (ha.bind address).imp h
  database db hdb := {
    run := fun statement => ((ha.database db hdb).run statement).imp h
    begin := (ha.database db hdb).begin.imp h
    within := fun statement => ((ha.database db hdb).within statement).imp h
    commit := (ha.database db hdb).commit.imp h
    rollback := (ha.database db hdb).rollback.imp h }
  report name e s := h _ _ (ha.report name e s)
  log e s := h _ _ (ha.log e s)

namespace Collector

/-- The cache stays as it is. -/
def SameCache (part : Part σ (Collector S)) (s t : σ) : Prop :=
  (part.get t).cache = (part.get s).cache

/-- No entry of the cache changes but the one under a name. -/
def OwnEntry (part : Part σ (Collector S)) (name : String) (s t : σ) : Prop :=
  ∀ key, key ≠ name → (part.get t).cache.get? key = (part.get s).cache.get? key

section Changes

variable {part : Part σ (Collector S)} {name : String}

theorem ownEntry_of_sameCache (s t : σ) (h : SameCache part s t) : OwnEntry part name s t :=
  fun key _ => congrArg (·.get? key) h

/-- A change of a part of the collector that is not the cache. -/
theorem ownEntry_set (hpart : part.Lawful) {τ : Type} {q : Part (Collector S) τ}
    (hq : ∀ x c, (q.set x c).cache = c.cache) (x : τ) (s : σ) :
    OwnEntry part name s ((part.inner q).set x s) := by
  apply ownEntry_of_sameCache
  change (part.get (part.set (q.set x (part.get s)) s)).cache = _
  rw [hpart.get_set, hq]

theorem ownEntry_refl (s : σ) : OwnEntry part name s s := fun _ _ => rfl

/-- The law that each change is of that kind. -/
abbrev own (part : Part σ (Collector S)) (name : String) : Routine.Law σ :=
  .keeps (R := OwnEntry part name) ownEntry_refl

theorem ownEntry_inner (hpart : part.Lawful) {τ : Type} {q : Part (Collector S) τ}
    (hq : ∀ x c, (q.set x c).cache = c.cache) (f : τ → τ) (s : σ) :
    OwnEntry part name s ((part.inner q).modify f s) :=
  ownEntry_set hpart hq _ s

/-- A record is put under its name. -/
theorem ownEntry_put (hpart : part.Lawful) (payload : ByteArray) (s : σ) :
    OwnEntry part name s ((ledger part).cache.modify (·.put name payload) s) := by
  intro key hkey
  change (part.get (part.set { part.get s with cache := (part.get s).cache.put name payload } s)
    ).cache.get? key = _
  rw [hpart.get_set, Cache.get?_put, if_neg hkey]

end Changes

/-! ## Modules -/

section Modules

variable {part : Part σ (Collector S)} {around : Surroundings σ S}
variable (hpart : part.Lawful) (haround : ∀ name, around.Keeps (OwnEntry part name))

include hpart haround

theorem httpLink_obeys {settings : HttpSettings} {q : Part (Collector S) HttpStatus}
    (hq : ∀ x c, (q.set x c).cache = c.cache) (name : String) :
    (httpLink around settings (part.inner q)).Obeys (own part name) where
  send := (haround name).send settings
  update f := keeps_change (ownEntry_inner hpart hq f)
  report e := keeps_change ((haround name).report settings.name e)
  log e := keeps_change ((haround name).log e)

theorem heatingLink_obeys (s : HeatingSettings) (name : String) :
    (heatingLink part around s).Obeys (own part name) where
  controller := ((haround name).controller s.link).obeys ownEntry_refl
  update f := keeps_change (ownEntry_inner hpart (fun _ _ => rfl) f)
  report e := keeps_change ((haround name).report s.name e)
  log e := keeps_change ((haround name).log e)

omit hpart in
theorem table_obeys {ρ : Type} (t : Store.Table ρ) (name : String) :
    (t.place around.database).Obeys (own part name) :=
  Store.Table.obeys_place (fun db hdb => ((haround name).database db hdb).obeys ownEntry_refl) t

omit haround in
theorem ledger_obeys (name : String) : (ledger part).Obeys (own part name) name where
  count _ := keeps_change (ownEntry_inner hpart (fun _ _ => rfl) _)
  put payload := keeps_change (ownEntry_put hpart payload)

theorem inverter_keeps (s : InverterSettings) (task : Nat) :
    (inverterPoller part around s task).toModule.Keeps (OwnEntry part s.name) :=
  Poller.keeps_toModule
    (Inverter.obeys_source (httpLink_obeys hpart haround (fun _ _ => rfl) _)
      (httpLink_obeys hpart haround (fun _ _ => rfl) _))
    (table_obeys haround _ _) (ledger_obeys hpart _) (ownEntry_inner hpart fun _ _ => rfl)

theorem battery_keeps (s : BatterySettings) (task : Nat) :
    (batteryPoller part around s task).toModule.Keeps (OwnEntry part s.name) :=
  Poller.keeps_toModule (Battery.obeys_source (httpLink_obeys hpart haround (fun _ _ => rfl) _))
    (table_obeys haround _ _) (ledger_obeys hpart _) (ownEntry_inner hpart fun _ _ => rfl)

theorem stove_keeps (s : StoveSettings) (task : Nat) :
    (stovePoller part around s task).toModule.Keeps (OwnEntry part s.name) :=
  Poller.keeps_toModule (Stove.obeys_source (httpLink_obeys hpart haround (fun _ _ => rfl) _))
    (table_obeys haround _ _) (ledger_obeys hpart _) (ownEntry_inner hpart fun _ _ => rfl)

theorem heating_keeps (s : HeatingSettings) (task : Nat) :
    (heatingPoller part around s task).toModule.Keeps (OwnEntry part s.name) :=
  Poller.keeps_toModule
    (Heating.obeys_source (heatingLink_obeys hpart haround s _) (Routine.Law.locks_keeps _))
    (table_obeys haround _ _) (ledger_obeys hpart _) (ownEntry_inner hpart fun _ _ => rfl)

theorem rooms_keeps (s : HeatingSettings) (rooms : RoomSettings) (task : Nat) :
    (roomsUpdater part around s rooms task).toModule.Keeps (OwnEntry part rooms.name) :=
  Updater.keeps_toModule
    (Heating.obeys_rooms (heatingLink_obeys hpart haround s _) (Routine.Law.locks_keeps _))
    (ledger_obeys hpart _) (ownEntry_inner hpart fun _ _ => rfl)

/-- The life of the receiver. -/
theorem receiver_keeps (s : WeatherSettings) (task : Nat) :
    (receiver part around s task).toModule.Keeps (OwnEntry part s.name) where
  init := by
    refine keeps_do (table_obeys haround _ s.name).prepare fun o => ?_
    cases o with
    | error f => exact keeps_pure _
    | ok u =>
        have hready : Routine.Keeps (OwnEntry part s.name) (do
            .change ((receiver part around s task).listening.set true)
            .change ((receiver part around s task).worker.modify Worker.markInitialized)
            return .ok () : Routine σ (Outcome Unit)) := by
          refine keeps_do (keeps_change (ownEntry_set hpart (fun _ _ => rfl) true)) fun _ => ?_
          exact keeps_do (keeps_change (ownEntry_inner hpart (fun _ _ => rfl) _))
            fun _ => keeps_pure _
        refine keeps_do (keeps_look ownEntry_refl) fun w => ?_
        dsimp only
        split
        · exact hready
        · refine keeps_do ((haround s.name).bind _) fun opened => ?_
          cases opened with
          | error f => exact keeps_pure _
          | ok u => exact hready
  start := by
    refine keeps_do (keeps_look ownEntry_refl) fun w => ?_
    split
    · exact keeps_pure _
    · refine keeps_do (keeps_look ownEntry_refl) fun w => ?_
      split
      · exact keeps_pure _
      · refine keeps_do (keeps_change (ownEntry_set hpart (fun _ _ => rfl) false)) fun _ => ?_
        exact Worker.keeps_start ownEntry_refl (ownEntry_inner hpart fun _ _ => rfl) _
  abort := Worker.keeps_abort ownEntry_refl (ownEntry_inner hpart fun _ _ => rfl)
  wait := Worker.keeps_wait ownEntry_refl (ownEntry_inner hpart fun _ _ => rfl)
  round := trivial

/-- The answers of the receiver. -/
theorem answer_keeps (s : WeatherSettings) (task : Nat) (query : String) :
    ((receiver part around s task).answer query).Keeps (OwnEntry part s.name) :=
  Receiver.obeys_answer (r := own part s.name) (table_obeys haround _ s.name).write
    (ledger_obeys hpart _) query

end Modules

/-- What holds of each kind of module that settings ask for holds of all modules. -/
theorem forall_modules {part : Part σ (Collector S)} {around : Surroundings σ S}
    {s : CollectorSettings} {P : Module σ → Prop}
    (inverter : ∀ d ∈ s.inverter, ∀ task, P (inverterPoller part around d task).toModule)
    (battery : ∀ d ∈ s.battery, ∀ task, P (batteryPoller part around d task).toModule)
    (stove : ∀ d ∈ s.stove, ∀ task, P (stovePoller part around d task).toModule)
    (heating : ∀ d ∈ s.heating, ∀ task, P (heatingPoller part around d task).toModule)
    (rooms : ∀ d ∈ s.heating, ∀ r ∈ d.rooms, ∀ task,
      P (roomsUpdater part around d r task).toModule)
    (weather : ∀ d ∈ s.weather, ∀ task, P (receiver part around d task).toModule) :
    ∀ m ∈ modules part around s, P m := by
  have hmakers : ∀ make ∈ makers part around s, ∀ task, P (make task) := by
    simp only [makers, List.forall_mem_append, List.forall_mem_map, List.forall_mem_flatMap,
      List.forall_mem_cons, Option.mem_toList]
    exact ⟨⟨⟨⟨inverter, battery⟩, stove⟩, fun d hd => ⟨heating d hd, rooms d hd⟩⟩, weather⟩
  intro m hm
  obtain ⟨⟨make, task⟩, hmake, rfl⟩ := List.mem_map.1 hm
  exact hmakers make (List.fst_mem_of_mem_zipIdx hmake) task

variable {part : Part σ (Collector S)} {around : Surroundings σ S} {s : CollectorSettings}

/-- Each change of a module leaves the entries of other names alone. -/
theorem module_keeps (hpart : part.Lawful) (haround : around.Keeps (SameCache part)) :
    ∀ m ∈ modules part around s, m.Keeps (OwnEntry part m.name) := by
  have h (name : String) : around.Keeps (OwnEntry part name) := haround.imp ownEntry_of_sameCache
  apply forall_modules
  · exact fun d _ task => inverter_keeps hpart h d task
  · exact fun d _ task => battery_keeps hpart h d task
  · exact fun d _ task => stove_keeps hpart h d task
  · exact fun d _ task => heating_keeps hpart h d task
  · exact fun d _ r _ task => rooms_keeps hpart h d r task
  · exact fun d _ task => receiver_keeps hpart h d task

/-- No module of sensible settings asks for a ticker without a period. -/
theorem period_pos (hs : s.Sensible) :
    ∀ m ∈ modules part around s, ∀ period, m.body.pace = .ticking period → 0 < period.nanos := by
  apply forall_modules
  · rintro d hd task period ⟨⟩
    exact (hs.inverter d hd).2
  · rintro d hd task period ⟨⟩
    exact (hs.battery d hd).2
  · rintro d hd task period ⟨⟩
    exact (hs.stove d hd).2.1
  · rintro d hd task period ⟨⟩
    exact (hs.heating d hd).2.1
  · rintro d hd r hr task period ⟨⟩
    exact (hs.rooms d hd r hr).1
  · rintro d hd task period ⟨⟩

/-- The checks accept the settings that make sense and answer every other ones with a fault that
tells of invalid settings. The modules of accepted settings bear the names that the settings list,
in their order, and no two of them the same; none asks for a ticker without a period; and each puts
records into the cache under its own name only. -/
theorem modules_of_validate (s : CollectorSettings) :
    (s.validate = .ok () ↔ s.Sensible) ∧
    (∀ f, s.validate = .error f → ∃ field reason, f = .invalidConfig field reason) ∧
    (s.validate = .ok () →
      ∀ (σ S : Type) (part : Part σ (Collector S)) (around : Surroundings σ S),
        (modules part around s).map (·.name) = s.names ∧ s.names.Nodup ∧
        (∀ m ∈ modules part around s, ∀ period, m.body.pace = .ticking period →
          0 < period.nanos) ∧
        (part.Lawful → around.Keeps (SameCache part) →
          (∀ m ∈ modules part around s, m.Keeps (OwnEntry part m.name)) ∧
          ∀ d ∈ s.weather, ∀ task query,
            ((receiver part around d task).answer query).Keeps (OwnEntry part d.name))) := by
  refine ⟨CollectorSettings.validate_eq_ok_iff_sensible,
    fun f hf => CollectorSettings.invalid_of_validate hf, ?_⟩
  intro hvalid σ S part around
  have hs := CollectorSettings.validate_eq_ok_iff_sensible.1 hvalid
  refine ⟨name_modules part around s, hs.distinct, period_pos hs, ?_⟩
  intro hpart haround
  refine ⟨module_keeps hpart haround, ?_⟩
  intro d _ task query
  exact answer_keeps hpart (fun _ => haround.imp ownEntry_of_sameCache) d task query

/-- A heating controller that takes the room temperature from the weather. -/
def home : CollectorSettings where
  heating := some { host := "controller", rooms := some {} }
  weather := some {}

/-- A collector by itself. -/
def whole : Part (Collector Unit) (Collector Unit) := ⟨id, fun c _ => c⟩

/-- Surroundings in which nothing answers. -/
def silence : Surroundings (Collector Unit) Unit where
  send _ _ := pure (.error .late)
  controller _ := {
    connect := pure (.error (.internal "nobody is there"))
    readHolding := fun _ _ _ => pure (.ok [])
    readInput := fun _ _ _ => pure (.ok [])
    writeSingle := fun _ _ _ => pure (.ok ())
    writeMultiple := fun _ _ _ => pure (.ok ()) }
  bind _ := pure (.ok ())
  database := none
  report _ _ s := s

theorem modules_of_validate_home :
    home.validate = .ok () ∧ whole.Lawful ∧ silence.Keeps (SameCache whole) ∧
      (modules whole silence home).map (·.name) = ["solvis", "solvis-updater", "weather"] ∧
      ∀ m ∈ modules whole silence home, m.Keeps (OwnEntry whole m.name) := by
  have hvalid : home.validate = .ok () := by
    decide
  have hlawful : whole.Lawful := ⟨fun _ _ => rfl, fun _ => rfl, fun _ _ _ => rfl⟩
  have hsilence : silence.Keeps (SameCache whole) := {
    send := fun _ _ => trivial
    controller := fun _ => ⟨trivial, fun _ _ _ => trivial, fun _ _ _ => trivial,
      fun _ _ _ => trivial, fun _ _ _ => trivial⟩
    bind := fun _ => trivial
    database := fun _ hdb => nomatch hdb
    report := fun _ _ _ => rfl
    log := fun _ _ => rfl }
  obtain ⟨hnames, -, -, hkeeps⟩ := (modules_of_validate home).2.2 hvalid _ _ whole silence
  exact ⟨hvalid, hlawful, hsilence, hnames, (hkeeps hlawful hsilence).1⟩

end Collector

end HomeEnergy
