import HomeEnergy.Proofs.Collector.Entries
import HomeEnergy.Proofs.Collector.Records
import HomeEnergy.Proofs.Routine.Crowd
import HomeEnergy.Proofs.Routine.Phases

/-!
# A collector and what its modules have found

What the status page lists goes back to two kinds of calls: cycles of the four polling modules, and
uploads to the receiver. `CollectorWatch` is a collector for which it is written down which modules
have had a successful query or an accepted upload. A call is the module's own, with nothing added
but the note, which is made as soon as the answer is there.

Between its answer and its entry a call goes through a phase. A cycle notes first and then puts a
record into the cache; an upload puts a record into the cache first and notes when it is accepted.
Whatever fails, a call that has made the first of the two changes makes the second.

## Main results

* `CollectorWatch.phased_cycle`, `CollectorWatch.phased_upload` — the phases of a cycle and of an
  upload.
* `CollectorWatch.Call.goes` — the calls that settings ask for begin and end quiet.
-/

namespace HomeEnergy

open Routine (Part Law)

/-- A collector with what is around it. -/
structure CollectorWatch (S ω : Type) where
  collector : Collector S
  world : ω
  /-- The modules with a successful query or an accepted upload, in the order in which these
  came. -/
  fed : List String := []

/-- What comes out of a use of a connection is a fault, or what the handler makes of an answer. -/
theorem HttpLink.yields_execute {σ α : Type} {l : HttpLink σ}
    {handler : Http.Answer → Routine σ (Outcome α)} {P : Outcome α → Prop}
    (hfault : ∀ f, P (.error f)) (hhandler : ∀ answer, (handler answer).Yields P) :
    (l.execute handler).Yields P := by
  refine Routine.yields_after fun status => ?_
  split
  · exact hfault _
  · refine Routine.yields_after fun recovered => ?_
    cases recovered with
    | error f => exact hfault f
    | ok _ =>
        refine Routine.yields_after fun reply => ?_
        cases reply with
        | ok answer => exact hhandler answer
        | error loss =>
            refine Routine.yields_after fun _ => ?_
            refine Routine.yields_after fun _ => ?_
            exact Routine.yields_after fun _ => hfault _

namespace CollectorWatch

variable {S ω ρ α : Type}

/-! ## Calls under watch -/

/-- The collector. -/
def collectorPart : Part (CollectorWatch S ω) (Collector S) :=
  ⟨CollectorWatch.collector, fun c w => { w with collector := c }⟩

/-- The cache. -/
def cache (w : CollectorWatch S ω) : Cache := w.collector.cache

/-- Write down that a module has had something to show. -/
def note (name : String) (w : CollectorWatch S ω) : CollectorWatch S ω :=
  { w with fed := w.fed ++ [name] }

/-- A device whose successful queries are written down. -/
def source (s : Source (CollectorWatch S ω) ρ) : Source (CollectorWatch S ω) ρ where
  name := s.name
  init := s.init
  query := do
    match ← s.query with
    | .error f => return .error f
    | .ok record =>
      .change (note s.name)
      return .ok record

/-- A poller whose successful queries are written down. -/
def poller (p : Poller (CollectorWatch S ω) ρ) : Poller (CollectorWatch S ω) ρ :=
  { p with source := source p.source }

/-- An upload that is written down if it is accepted. -/
def upload (r : Receiver (CollectorWatch S ω)) (params : Weather.Parameters) :
    Routine (CollectorWatch S ω) (Outcome Unit) := do
  match ← r.accept params with
  | .error f => return .error f
  | .ok () =>
    .change (note r.settings.name)
    return .ok ()

/-- A call of the module with a name: a cycle of one of the four polling modules, or an upload with
any parameters. -/
inductive Call (around : Surroundings (CollectorWatch S ω) S) (s : CollectorSettings) :
    String → Guest (CollectorWatch S ω) → Prop where
  | inverter {d : InverterSettings} (given : d ∈ s.inverter) (task : Nat) :
      Call around s d.name
        (.of (poller (Collector.inverterPoller collectorPart around d task)).cycle)
  | battery {d : BatterySettings} (given : d ∈ s.battery) (task : Nat) :
      Call around s d.name
        (.of (poller (Collector.batteryPoller collectorPart around d task)).cycle)
  | stove {d : StoveSettings} (given : d ∈ s.stove) (task : Nat) :
      Call around s d.name
        (.of (poller (Collector.stovePoller collectorPart around d task)).cycle)
  | heating {d : HeatingSettings} (given : d ∈ s.heating) (task : Nat) :
      Call around s d.name
        (.of (poller (Collector.heatingPoller collectorPart around d task)).cycle)
  | weather {d : WeatherSettings} (given : d ∈ s.weather) (task : Nat)
      (params : Weather.Parameters) :
      Call around s d.name (.of (upload (Collector.receiver collectorPart around d task) params))

/-! ## Phases -/

/-- The cache and what is written down stay as they are. -/
structure Same (w w' : CollectorWatch S ω) : Prop where
  cache : w'.cache = w.cache
  fed : w'.fed = w.fed

theorem Same.refl (w : CollectorWatch S ω) : Same w w := ⟨rfl, rfl⟩

/-- The law that each change is of that kind. -/
abbrev same : Law (CollectorWatch S ω) := .keeps (R := Same) Same.refl

/-- How far a call has come. -/
inductive Phase where
  /-- It has nothing to make up for. -/
  | quiet
  /-- It is written down that there is a record, which is not in the cache yet. -/
  | found
  /-- A record is in the cache, which is not written down yet. -/
  | stored
deriving DecidableEq

/-- A module is noted. -/
structure Notes (name : String) (w w' : CollectorWatch S ω) : Prop where
  cache : w'.cache = w.cache
  fed : w'.fed = w.fed ++ [name]

/-- A document is put into the cache for a module. -/
structure Fills (name : String) (w w' : CollectorWatch S ω) : Prop where
  cache : ∃ d : Document, d.Legible ∧ w'.cache = w.cache.put name (Json.bytes d)
  fed : w'.fed = w.fed

/-- What a call of the module with a name may change, and which phase it leads to. -/
inductive Shift (name : String) :
    Phase → CollectorWatch S ω → CollectorWatch S ω → Phase → Prop where
  | same {ph : Phase} {w w' : CollectorWatch S ω} (same : Same w w') : Shift name ph w w' ph
  | finds {w w' : CollectorWatch S ω} (notes : Notes name w w') : Shift name .quiet w w' .found
  | puts {w w' : CollectorWatch S ω} (fills : Fills name w w') : Shift name .found w w' .quiet
  | stores {w w' : CollectorWatch S ω} (fills : Fills name w w') : Shift name .quiet w w' .stored
  | accepts {w w' : CollectorWatch S ω} (notes : Notes name w w') : Shift name .stored w w' .quiet

/-- A routine of a module that begins in a phase and ends quiet. -/
abbrev Goes (name : String) (p : Routine (CollectorWatch S ω) α) (ph : Phase) : Prop :=
  p.Phased (Shift name) (fun _ last => last = .quiet) ph

section Phases

variable {name : String} {ph : Phase} {P : α → Prop}

/-- What has nothing to do with the cache does not change the phase. -/
theorem phased_of_same {p : Routine (CollectorWatch S ω) α} (hp : p.Keeps Same)
    (hresult : p.Yields P) :
    p.Phased (Shift name) (fun a last => last = ph ∧ P a) ph :=
  Routine.phased_of_keeps hp hresult fun _ _ => Shift.same

theorem goes_of_same {p : Routine (CollectorWatch S ω) α} (hp : p.Keeps Same) :
    Goes name p .quiet :=
  (phased_of_same hp (Routine.yields_any p)).imp fun _ _ h => h.1

/-- Counting leaves the cache alone. -/
theorem keeps_count (l : String) (r : QueryResult) :
    ((Collector.ledger (collectorPart (S := S) (ω := ω))).count l r).Keeps Same :=
  Routine.keeps_change fun _ => ⟨rfl, rfl⟩

/-- A document is put into the cache. -/
theorem phased_store {d : Document} (hlegible : d.Legible) {last : Phase}
    (hshift : ∀ w w' : CollectorWatch S ω, Fills name w w' → Shift name ph w w' last) :
    ((Collector.ledger (collectorPart (S := S) (ω := ω))).store name (.ok d)).Phased (Shift name)
      (fun o end_ => end_ = last ∧ o = .ok ()) ph := by
  have hfills : ∀ w : CollectorWatch S ω, Fills name w
      ((Collector.ledger collectorPart).cache.modify (·.put name (Json.bytes d)) w) :=
    fun w => ⟨⟨d, hlegible, rfl⟩, rfl⟩
  refine Routine.phased_do (Routine.phased_change fun w => hshift w _ (hfills w)) ?_
  rintro _ _ rfl
  exact Routine.phased_pure ⟨rfl, rfl⟩

/-- A cycle notes a record when it has come, and puts it into the cache. -/
theorem phased_cycle {p : Poller (CollectorWatch S ω) ρ}
    (hledger : p.ledger = Collector.ledger collectorPart)
    (hquery : p.source.query.Keeps Same)
    (hrecord : p.source.query.Yields fun o => ∀ x, o = .ok x →
      ∃ d, p.write x = .ok d ∧ d.Legible)
    (hsink : ∀ x, (p.sink.write x).Keeps Same) : Goes p.source.name (poller p).cycle .quiet := by
  have hcount : ∀ r, (p.ledger.count p.source.name r).Keeps Same := by
    intro r
    rw [hledger]
    exact keeps_count _ r
  have hanswer : (source p.source).query.Phased (Shift p.source.name)
      (fun o last => (last = .quiet ∧ ∃ f, o = .error f) ∨
        (last = .found ∧ ∃ x d, o = .ok x ∧ p.write x = .ok d ∧ d.Legible)) .quiet := by
    refine Routine.phased_do (phased_of_same hquery hrecord) ?_
    rintro o _ ⟨rfl, hlegible⟩
    cases o with
    | error f => exact Routine.phased_pure (.inl ⟨rfl, f, rfl⟩)
    | ok x =>
        obtain ⟨d, hd, hlegible⟩ := hlegible x rfl
        refine Routine.phased_do (Routine.phased_change fun w => .finds ⟨rfl, rfl⟩) ?_
        rintro _ _ rfl
        exact Routine.phased_pure (.inr ⟨rfl, x, d, rfl, hd, hlegible⟩)
  refine Routine.phased_do hanswer ?_
  rintro o _ (⟨rfl, f, rfl⟩ | ⟨rfl, x, d, rfl, hd, hlegible⟩)
  · exact goes_of_same (Routine.keeps_do (hcount .failure) fun _ => Routine.keeps_pure _)
  · refine Routine.phased_do (phased_of_same (hcount .success) (Routine.yields_any _)) ?_
    rintro _ _ ⟨rfl, -⟩
    have hstore : (p.ledger.store p.source.name (p.write x)).Phased (Shift p.source.name)
        (fun o end_ => end_ = .quiet ∧ o = .ok ()) .found := by
      rw [hledger, hd]
      exact phased_store hlegible fun _ _ => Shift.puts
    refine Routine.phased_do hstore ?_
    rintro _ _ ⟨rfl, rfl⟩
    exact goes_of_same (hsink x)

/-- The reading of an upload is taken at a moment of the clock. -/
theorem yields_moment : (moment : Routine (CollectorWatch S ω) Timestamp).Yields
    fun time => ∃ ns, time = .ofNanos ns :=
  fun t => ⟨t, rfl⟩

theorem keeps_moment : (moment : Routine (CollectorWatch S ω) Timestamp).Keeps Same :=
  obeys_moment (r := same)

/-- An upload puts its reading into the cache, and is noted when it is accepted. -/
theorem phased_upload {r : Receiver (CollectorWatch S ω)}
    (hledger : r.ledger = Collector.ledger collectorPart)
    (hsink : ∀ x, (r.sink.write x).Keeps Same) (params : Weather.Parameters) :
    Goes r.settings.name (upload r params) .quiet := by
  have hcount : ∀ answer, (r.ledger.count r.settings.name answer).Keeps Same := by
    intro answer
    rw [hledger]
    exact keeps_count _ answer
  have hkeep : (r.keep params).Phased (Shift r.settings.name)
      (fun o last => (last = .quiet ∧ ∃ f, o = .error f) ∨ (last = .stored ∧ ∃ x, o = .ok x))
      .quiet := by
    refine Routine.phased_do (phased_of_same keeps_moment yields_moment) ?_
    rintro _ _ ⟨rfl, ns, rfl⟩
    cases hobserve : Weather.observe (.ofNanos ns) params with
    | error f => exact Routine.phased_pure (.inl ⟨rfl, f, rfl⟩)
    | ok x =>
        have hlegible := Weather.legible_record (Weather.taken_of_observe hobserve)
        have hstore : (r.ledger.store r.settings.name (.ok x.toDocument)).Phased
            (Shift r.settings.name) (fun o end_ => end_ = .stored ∧ o = .ok ()) .quiet := by
          rw [hledger]
          exact phased_store hlegible fun _ _ => Shift.stores
        refine Routine.phased_do hstore ?_
        rintro _ _ ⟨rfl, rfl⟩
        exact Routine.phased_pure (.inr ⟨rfl, x, rfl⟩)
  have haccept : (r.accept params).Phased (Shift r.settings.name)
      (fun o last => (last = .quiet ∧ ∃ f, o = .error f) ∨ (last = .stored ∧ o = .ok ()))
      .quiet := by
    refine Routine.phased_do hkeep ?_
    rintro _ _ (⟨rfl, f, rfl⟩ | ⟨rfl, x, rfl⟩)
    · refine Routine.phased_do (phased_of_same (hcount .failure) (Routine.yields_any _)) ?_
      rintro _ _ ⟨rfl, -⟩
      exact Routine.phased_pure (.inl ⟨rfl, f, rfl⟩)
    · refine Routine.phased_do (phased_of_same (hsink x) (Routine.yields_any _)) ?_
      rintro _ _ ⟨rfl, -⟩
      refine Routine.phased_do (phased_of_same (hcount .success) (Routine.yields_any _)) ?_
      rintro _ _ ⟨rfl, -⟩
      exact Routine.phased_pure (.inr ⟨rfl, rfl⟩)
  refine Routine.phased_do haccept ?_
  rintro _ _ (⟨rfl, f, rfl⟩ | ⟨rfl, rfl⟩)
  · exact Routine.phased_pure rfl
  · refine Routine.phased_do (Routine.phased_change fun w => .accepts ⟨rfl, rfl⟩) ?_
    rintro _ _ rfl
    exact Routine.phased_pure rfl

end Phases

/-! ## The calls that settings ask for -/

section Calls

variable {around : Surroundings (CollectorWatch S ω) S} {s : CollectorSettings} {name : String}

/-- The status of a connection, and what is around it, have nothing to do with the cache. -/
theorem httpLink_same (haround : around.Keeps Same) {settings : HttpSettings}
    {q : Part (Collector S) HttpStatus} (hq : ∀ x c, (q.set x c).cache = c.cache) :
    (Collector.httpLink around settings (collectorPart.inner q)).Obeys same where
  send := haround.send settings
  update _ := Routine.keeps_change fun w => ⟨hq _ w.collector, rfl⟩
  report e := Routine.keeps_change (haround.report settings.name e)
  log e := Routine.keeps_change (haround.log e)

theorem heatingLink_same (haround : around.Keeps Same) (d : HeatingSettings) :
    (Collector.heatingLink collectorPart around d).Obeys same where
  controller := (haround.controller d.link).obeys Same.refl
  update _ := Routine.keeps_change fun _ => ⟨rfl, rfl⟩
  report e := Routine.keeps_change (haround.report d.name e)
  log e := Routine.keeps_change (haround.log e)

theorem table_same (haround : around.Keeps Same) (t : Store.Table ρ) :
    (t.place around.database).Obeys same :=
  Store.Table.obeys_place (fun db hdb => (haround.database db hdb).obeys Same.refl) t

/-- The battery answers with readings, or not at all. -/
theorem yields_battery {link : HttpLink (CollectorWatch S ω)} :
    (Battery.source name link).query.Yields fun o => ∀ x, o = .ok x →
      ∃ d, Except.ok (ε := Fault) x.toDocument = .ok d ∧ d.Legible := by
  apply HttpLink.yields_execute
  · intro f x h
    cases h
  · intro answer
    refine Routine.yields_after fun time => ?_
    refine Routine.yields_pure ?_
    intro x hx
    obtain ⟨d, -, hread⟩ := ok_of_bind hx
    exact ⟨_, rfl, Battery.legible_of_read hread⟩

/-- A call begins and ends with nothing to make up for. -/
theorem Call.goes {g : Guest (CollectorWatch S ω)} (haround : around.Keeps Same)
    (h : Call around s name g) : Goes name g.rest .quiet := by
  cases h with
  | @inverter d given task =>
      have hsource : (Collector.inverterPoller collectorPart around d task).source.Obeys same :=
        Inverter.obeys_source (httpLink_same haround fun _ _ => rfl)
          (httpLink_same haround fun _ _ => rfl)
      refine phased_cycle rfl hsource.query ?_ (table_same haround _).write
      exact Routine.yields_of_forall (fun _ x _ => ⟨_, rfl, Inverter.legible_record x⟩) _
  | @battery d given task =>
      have hsource : (Collector.batteryPoller collectorPart around d task).source.Obeys same :=
        Battery.obeys_source (httpLink_same haround fun _ _ => rfl)
      exact phased_cycle rfl hsource.query yields_battery (table_same haround _).write
  | @stove d given task =>
      have hsource : (Collector.stovePoller collectorPart around d task).source.Obeys same :=
        Stove.obeys_source (httpLink_same haround fun _ _ => rfl)
      refine phased_cycle rfl hsource.query ?_ (table_same haround _).write
      exact Routine.yields_of_forall (fun _ x _ => ⟨_, rfl, Stove.legible_record x⟩) _
  | @heating d given task =>
      have hsource : (Collector.heatingPoller collectorPart around d task).source.Obeys same :=
        Heating.obeys_source (heatingLink_same haround d) (Law.locks_keeps _)
      refine phased_cycle rfl hsource.query ?_ (table_same haround _).write
      exact Routine.yields_of_forall (fun _ x _ => ⟨_, rfl, Heating.legible_record x⟩) _
  | weather given task params =>
      exact phased_upload (r := Collector.receiver collectorPart around _ task) rfl
        (table_same haround _).write params

end Calls

end CollectorWatch

end HomeEnergy
