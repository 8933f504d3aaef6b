import HomeEnergy.Proofs.House.Course

/-!
# The life of a house

All modules of a house are made ready, those with which that succeeds are started, and later on
these are stopped, while tasks run and others change the world as they like, in any order. Between
the start and the stop any time may pass, and any number of rounds.

## Main results

* `House.Stands.ended` — what a call achieves, it achieves in the house.
* `House.lifetime_of_plain` — how modules live that leave each other's tasks alone.
* `House.whole_life` — who is made ready, started and stopped, and that nothing happens behind it.
-/

namespace HomeEnergy

open Routine (Part Interference)

variable {δ σ α β : Type}

/-- A module is running, and its task has been launched. -/
structure Module.Started (m : Module σ) (s : Schedule σ α) : Prop where
  running : (m.worker.get s.state).state = .running
  launched : ∃ i t, (m.worker.get s.state).task = some i ∧ s.tasks[i]? = some t ∧
    t.body = m.body ∧ t.progress ≠ .dormant

/-- The steps of a schedule lead on. -/
theorem Schedule.drifts_later {others : σ → σ → Prop} (s : Schedule σ α) (n : Nat) :
    s.Drifts others (s.later n) := by
  induction n with
  | zero => exact .refl
  | succ n ih =>
      show s.Drifts others ((s.later n).step?.getD (s.later n))
      cases hstep : (s.later n).step? with
      | none => exact ih
      | some b => exact ih.tail (stirs_of_step hstep)

namespace House

variable {log : LogEntry → δ → δ} {report : Module (House δ) → Fault → LogEntry}
  {residents : List (Resident δ)} {others : House δ → House δ → Prop}

/-- Each module has been made ready once, in order and whatever has become of the others, and these
are the modules with which that has succeeded. -/
def MadeReady (log : LogEntry → δ → δ) (residents : List (Resident δ))
    (ready : List (Module (House δ))) (s : Schedule (House δ) α) : Prop :=
  ∃ answers, answers.length = residents.length ∧ s.state.inits = calls answers 0 ∧
    ready = accepted (modules log residents) answers

/-- Modules have stopped, and between one time and another one their tasks have done nothing. They
cannot be started again. -/
structure Silent (others : House δ → House δ → Prop) (ready : List (Module (House δ)))
    (s t : Schedule (House δ) Unit) : Prop where
  stopped : ∀ m ∈ ready, (m.worker.get t.state).state = .stopped ∧
    (m.worker.get t.state).task = none
  gone : ∀ i, t.isOver i = true
  deeds : t.state.deeds = s.state.deeds
  outside : others s.state t.state
  refused : ∀ m ∈ ready, ∀ me, ∃ fault, t.perform me m.start = (t, .ended (.error fault))

/-! ## How a house stands -/

/-- The tasks of a house are those of its modules, and keep to themselves. -/
structure Stands (log : LogEntry → δ → δ) (residents : List (Resident δ))
    (s : Schedule (House δ) α) (c : Scene (House δ)) : Prop where
  tasks : ∀ m ∈ residents.zipIdx, ∃ t, s.tasks[m.2]? = some t ∧ t.body = (moduleAt log m).body
  quiet : s.Quiet Spares
  shows : s.Shows c

variable {a b : Schedule (House δ) α} {c : Scene (House δ)}

theorem Stands.turnTo (h : Stands log residents a c) (p : Routine (House δ) β) :
    Stands log residents (a.turnTo p) c :=
  ⟨h.tasks, h.quiet.turnTo p, h.shows.turnTo p⟩

theorem Stands.after (h : Stands log residents a c) {c' : Scene (House δ)}
    (hfollows : a.EachTask (Task.Follows Spares) b) (hshows : b.Shows c') :
    Stands log residents b c' := by
  refine ⟨?_, hfollows.quiet h.quiet, hshows⟩
  intro m hm
  obtain ⟨t, ht, hbody⟩ := h.tasks m hm
  obtain ⟨t', ht', hfollow⟩ := hfollows.later ht
  exact ⟨t', ht', hfollow.body.trans hbody⟩

theorem spares_of_outside (hothers : ∀ h h', others h h' → Outside h h') :
    ∀ h h', others h h' → Spares h h' :=
  fun h h' hh => (hothers h h' hh).toSpares

/-- What a call achieves amid others, it achieves in the house. -/
theorem Stands.ended (h : Stands log residents a c) (hothers : ∀ h h', others h h' → Outside h h')
    {p : Routine (House δ) α} {post : α → Scene (House δ) → Prop} (hmain : a.main = .ready p)
    (hp : Achieves post p c) (hdrift : a.Drifts others b) {r : α} (hend : b.main = .ended r) :
    ∃ c', Stands log residents b c' ∧ post r c' := by
  have hrest : a.main.rest.Assured Around (fun _ _ => True) post c := by
    rw [hmain]
    exact hp
  obtain ⟨hfollows, c', hshows, hpost⟩ :=
    hdrift.ended interference_spares (spares_of_outside hothers) h.quiet h.shows hrest hend
  exact ⟨c', h.after hfollows hshows, hpost⟩

/-- Behind the end of a call the tasks go on. -/
theorem Stands.around (h : Stands log residents a c)
    (hothers : ∀ h h', others h h' → Outside h h') {r : α} (hmain : a.main = .ended r)
    (hdrift : a.Drifts others b) :
    ∃ c', Stands log residents b c' ∧ Around c c' := by
  obtain ⟨hfollows, -, c', hc', hshows⟩ :=
    hdrift.around interference_spares (spares_of_outside hothers) h.quiet hmain h.shows
  exact ⟨c', h.after hfollows hshows, hc'⟩

/-! ## At first -/

variable {now : Nat} {world : δ}

theorem tasks_opening (m : Resident δ × Nat) (hm : m ∈ residents.zipIdx) :
    (opening log report residents now world).tasks[m.2]?
      = some { body := (moduleAt log m).body } := by
  obtain ⟨r, k⟩ := m
  have hr : residents[k]? = some r := List.mem_zipIdx_iff_getElem?.1 hm
  simp [opening, modules, hr]

theorem dormant_opening {i : Nat} {t : Task (House δ)}
    (ht : (opening log report residents now world).tasks[i]? = some t) :
    ∃ m ∈ residents.zipIdx, t = { body := (moduleAt log m).body } := by
  have hmem := List.mem_of_getElem? ht
  obtain ⟨m', hm', rfl⟩ := List.mem_map.1 hmem
  obtain ⟨m, hm, rfl⟩ := List.mem_map.1 hm'
  exact ⟨m, hm, rfl⟩

theorem isOver_opening (i : Nat) :
    (opening log report residents now world).isOver i = true := by
  cases ht : (opening log report residents now world).tasks[i]? with
  | none => simp [Schedule.isOver, ht]
  | some t =>
      obtain ⟨m, -, rfl⟩ := dormant_opening ht
      rw [Schedule.isOver_of_task ht]
      rfl

theorem stands_opening (hplain : ∀ r ∈ residents, r.Plain) :
    Stands log residents (opening log report residents now world)
      ⟨(opening log report residents now world).state, []⟩ := by
  refine ⟨fun m hm => ⟨_, tasks_opening m hm, rfl⟩, ?_, rfl, ?_, by simp⟩
  · intro i t ht
    obtain ⟨m, hm, rfl⟩ := dormant_opening ht
    refine ⟨?_, by simp⟩
    have hr : residents[m.2]? = some m.1 := List.mem_zipIdx_iff_getElem?.1 hm
    exact Resident.quiet_round (hplain m.1 (List.mem_of_getElem? hr)) log m.2
  · intro i
    simp [Scene.IsOver, isOver_opening]

theorem solitary_opening (hplain : ∀ r ∈ residents, r.Plain) :
    (opening log report residents now world).Solitary :=
  ⟨isOver_opening, rfl, bracketed_initAll hplain 0⟩

/-! ## Stage by stage -/

/-- How a house stands of which some modules have been made ready: nothing else has happened. -/
structure Readied (log : LogEntry → δ → δ) (residents : List (Resident δ))
    (ms : List (Resident δ × Nat)) (s : Schedule (House δ) α) (c : Scene (House δ)) : Prop where
  stands : Stands log residents s c
  members : ms.Sublist residents.zipIdx
  initialized : ∀ m ∈ ms, (c.state.workers m.2).state = .initialized
  spawned : c.spawned = []

theorem Readied.nodup {ms : List (Resident δ × Nat)} (h : Readied log residents ms a c) :
    (ms.map Prod.snd).Nodup := (nodup_numbers residents 0).sublist (h.members.map Prod.snd)

theorem readied_of_drifts (hplain : ∀ r ∈ residents, r.Plain)
    (hothers : ∀ h h', others h h' → Outside h h')
    {b : Schedule (House δ) (List (Module (House δ)))}
    (h : (opening log report residents now world).Drifts others b)
    {ready : List (Module (House δ))} (hend : b.main = .ended ready) :
    MadeReady log residents ready b ∧
      ∃ ms c, ready = ms.map (moduleAt log) ∧ Readied log residents ms b c := by
  obtain ⟨c, hstands, answers, hlength, hready, hcomes⟩ :=
    (stands_opening hplain).ended hothers rfl (assured_initAll hplain 0) h hend
  have hmembers : (accepted residents.zipIdx answers).Sublist residents.zipIdx := sublist_accepted
  refine ⟨⟨answers, hlength, ?_, ?_⟩, accepted residents.zipIdx answers, c, hready, hstands,
    hmembers, ?_, ?_⟩
  · rw [← hstands.shows.state, hcomes.inits]
    rfl
  · rw [hready, modules, accepted_map]
  · intro m hm
    rw [hcomes.own (List.mem_map_of_mem hm)]
    rfl
  · exact Fading.of_nil hcomes.spawned

/-- How a house stands whose ready modules have been started. -/
structure Running (log : LogEntry → δ → δ) (residents : List (Resident δ))
    (ms : List (Resident δ × Nat)) (s : Schedule (House δ) α) (c : Scene (House δ)) : Prop where
  stands : Stands log residents s c
  members : ms.Sublist residents.zipIdx
  running : ∀ m ∈ ms, (c.state.workers m.2).state = .running
  task : ∀ m ∈ ms, (c.state.workers m.2).task = some m.2
  spawned : c.spawned.map Spawned.task = ms.map Prod.snd

theorem Running.nodup {ms : List (Resident δ × Nat)} (h : Running log residents ms a c) :
    (ms.map Prod.snd).Nodup := (nodup_numbers residents 0).sublist (h.members.map Prod.snd)

theorem running_of_drifts (hothers : ∀ h h', others h h' → Outside h h')
    {ms : List (Resident δ × Nat)} (hready : Readied log residents ms a c)
    {b : Schedule (House δ) Nat}
    (h : (a.turnTo (Module.startAll (ms.map (moduleAt log)))).Drifts others b) {n : Nat}
    (hend : b.main = .ended n) : n = ms.length ∧ ∃ c', Running log residents ms b c' := by
  obtain ⟨c', hstands, hcount, hcomes⟩ := (hready.stands.turnTo _).ended hothers rfl
    (assured_startAll hready.nodup hready.initialized) h hend
  have hspawned := hcomes.spawned.tasks
  rw [hready.spawned, List.nil_append, List.map_map] at hspawned
  refine ⟨hcount, c', hstands, hready.members, ?_, ?_, hspawned.trans (List.map_id _)⟩
  · intro m hm
    rw [hcomes.own (List.mem_map_of_mem hm)]
    rfl
  · intro m hm
    rw [hcomes.own (List.mem_map_of_mem hm)]
    rfl

theorem worker_moduleAt (m : Resident δ × Nat) : (moduleAt log m).worker = workerPart m.2 :=
  m.1.worker_plain m.2

/-- Each of these modules runs with its own task. -/
theorem Running.started {ms : List (Resident δ × Nat)} (h : Running log residents ms a c) :
    ∀ m ∈ ms, (moduleAt log m).Started a := by
  intro m hm
  have hworker : (moduleAt log m).worker.get a.state = c.state.workers m.2 := by
    rw [worker_moduleAt, h.stands.shows.state]
    rfl
  obtain ⟨t, ht, hbody⟩ := h.stands.tasks m (h.members.subset hm)
  refine ⟨?_, m.2, t, ?_, ht, hbody, ?_⟩
  · rw [hworker]
    exact h.running m hm
  · rw [hworker]
    exact h.task m hm
  · have hmem : m.2 ∈ c.spawned.map Spawned.task := by
      rw [h.spawned]
      exact List.mem_map_of_mem hm
    obtain ⟨x, hx, hxm⟩ := List.mem_map.1 hmem
    exact h.stands.shows.begun x hx t (by rw [hxm, ht])

/-- No two modules have the same task. -/
theorem Running.nodup_tasks {ms : List (Resident δ × Nat)} (h : Running log residents ms a c) :
    ((ms.map (moduleAt log)).map fun m => (m.worker.get a.state).task).Nodup := by
  have htasks : ((ms.map (moduleAt log)).map fun m => (m.worker.get a.state).task)
      = (ms.map Prod.snd).map some := by
    rw [List.map_map, List.map_map]
    apply List.map_congr_left
    intro m hm
    rw [Function.comp_apply, worker_moduleAt, h.stands.shows.state.symm]
    exact h.task m hm
  rw [htasks]
  exact h.nodup.map (Option.some_injective _)

/-- While time passes the modules run. -/
theorem Running.around {ms : List (Resident δ × Nat)} (h : Running log residents ms a c)
    (hothers : ∀ h h', others h h' → Outside h h') {r : α} (hmain : a.main = .ended r)
    (hdrift : a.Drifts others b) : ∃ c', Running log residents ms b c' := by
  obtain ⟨c', hstands, haround⟩ := h.stands.around hothers hmain hdrift
  refine ⟨c', hstands, h.members, ?_, ?_, haround.spawned.tasks.trans h.spawned⟩
  · intro m hm
    rw [haround.state.workers]
    exact h.running m hm
  · intro m hm
    rw [haround.state.workers]
    exact h.task m hm

/-- How a house stands whose running modules have been stopped. -/
structure Stopped (ms : List (Resident δ × Nat)) (s : Schedule (House δ) α) : Prop where
  stopped : ∀ m ∈ ms, (s.state.workers m.2).state = .stopped ∧ (s.state.workers m.2).task = none
  gone : ∀ i, s.isOver i = true

theorem stopped_of_drifts (hothers : ∀ h h', others h h' → Outside h h')
    {ms : List (Resident δ × Nat)} (hrunning : Running log residents ms a c)
    {b : Schedule (House δ) Unit}
    (h : (a.turnTo (Module.abortAll (ms.map (moduleAt log)))).Drifts others b)
    (hend : b.main = .ended ()) : Stopped ms b := by
  obtain ⟨c', hstands, hcomes, hover⟩ := (hrunning.stands.turnTo _).ended hothers rfl
    (assured_abortAll hrunning.nodup hrunning.running hrunning.task) h hend
  refine ⟨?_, ?_⟩
  · intro m hm
    rw [← hstands.shows.state, hcomes.own (List.mem_map_of_mem hm)]
    exact ⟨rfl, rfl⟩
  · -- Only tasks of these modules have ever been launched.
    intro i
    rw [← hstands.shows.gone]
    intro x hx htask
    have htasks := hcomes.spawned.tasks
    rw [List.map_nil, List.append_nil, hrunning.spawned] at htasks
    have hmem : x.task ∈ ms.map Prod.snd := by
      rw [← htasks]
      exact List.mem_map_of_mem hx
    obtain ⟨m, hm, hmx⟩ := List.mem_map.1 hmem
    exact hover m hm x hx hmx.symm

/-- A module that has stopped is not started again. -/
theorem perform_start_of_stopped {s : Schedule (House δ) α} (m : Resident δ × Nat)
    (h : (s.state.workers m.2).state = .stopped) (me : Option Nat) :
    ∃ fault, s.perform me (moduleAt log m).start = (s, .ended (.error fault)) := by
  have hstartable : ((workerPart m.2).get s.state).startable
      = .error (.internal ((s.state.workers m.2).name ++ " cannot start while " ++
          ModuleState.stopped.name)) := by
    simp only [Worker.startable, workerPart, h]
  have hrun : s.perform me (moduleAt log m).start =
      (s, .ended (.error (.internal ((s.state.workers m.2).name ++ " cannot start while " ++
        ModuleState.stopped.name)))) := by
    simp only [moduleAt, Resident.toModule, Module.noted, Module.logged, Resident.start_plain,
      Worker.start, bind, Routine.bind, Routine.look, Schedule.perform, id, hstartable]
    rfl
  exact ⟨_, hrun⟩

theorem Stopped.silent (ho : Interference others) (hothers : ∀ h h', others h h' → Outside h h')
    {ms : List (Resident δ × Nat)} {s t : Schedule (House δ) Unit} (h : Stopped ms s)
    (hmain : s.main = .ended ()) (hdrift : s.Drifts others t) :
    Silent others (ms.map (moduleAt log)) s t := by
  obtain ⟨-, hover, hstate⟩ := hdrift.still ho h.gone hmain
  have hspared := hothers _ _ hstate
  have hstopped : ∀ m ∈ ms, (t.state.workers m.2).state = .stopped ∧
      (t.state.workers m.2).task = none := by
    rw [hspared.workers]
    exact h.stopped
  refine ⟨?_, hover, hspared.deeds, hstate, ?_⟩
  · intro m' hm'
    obtain ⟨m, hm, rfl⟩ := List.mem_map.1 hm'
    rw [worker_moduleAt]
    exact hstopped m hm
  · intro m' hm' me
    obtain ⟨m, hm, rfl⟩ := List.mem_map.1 hm'
    exact perform_start_of_stopped m (hstopped m hm).1 me

/-! ## The whole life -/

/-- How the modules of a house live from its opening on: they are made ready, some time later those
with which that has succeeded are started, and some time later these are stopped. -/
structure Lifetime (log : LogEntry → δ → δ) (residents : List (Resident δ))
    (others : House δ → House δ → Prop) (s : Schedule (House δ) (List (Module (House δ)))) : Prop
    where
  comes : ∀ b, s.Drifts others b → ∃ b' ready, b.Drifts others b' ∧ b'.main = .ended ready
  readies : ∀ b ready, s.Drifts others b → b.main = .ended ready → MadeReady log residents ready b
  starts : ∀ b ready, s.Drifts others b → b.main = .ended ready →
    ∀ c, (b.turnTo (Module.startAll ready)).Drifts others c →
      ∃ c' n, c.Drifts others c' ∧ c'.main = .ended n
  runs : ∀ b ready, s.Drifts others b → b.main = .ended ready →
    ∀ c n, (b.turnTo (Module.startAll ready)).Drifts others c → c.main = .ended n →
      n = ready.length ∧ (∀ m ∈ ready, m.Started c) ∧
        (ready.map fun m => (m.worker.get c.state).task).Nodup
  stops : ∀ b ready, s.Drifts others b → b.main = .ended ready →
    ∀ c n, (b.turnTo (Module.startAll ready)).Drifts others c → c.main = .ended n →
      ∀ d e, c.Drifts others d → (d.turnTo (Module.abortAll ready)).Drifts others e →
        e.main = .ended () → ∀ f, e.Drifts others f → Silent others ready e f

theorem lifetime_of_plain (log : LogEntry → δ → δ) (report : Module (House δ) → Fault → LogEntry)
    (now : Nat) (world : δ) (hplain : ∀ r ∈ residents, r.Plain) (ho : Interference others)
    (hothers : ∀ h h', others h h' → Outside h h') :
    Lifetime log residents others (opening log report residents now world) where
  comes b hb := ((solitary_opening hplain).drifts hb).comes_to_end
  readies b ready hb hend := (readied_of_drifts hplain hothers hb hend).1
  starts b ready hb hend c hc := by
    obtain ⟨-, ms, z, rfl, hready⟩ := readied_of_drifts hplain hothers hb hend
    apply Schedule.comes_to_end_of_waitless
    exact hc.waitless interference_spares (spares_of_outside hothers)
      (hready.stands.quiet.turnTo _) (waitless_startAll ms)
  runs b ready hb hend c n hc hcend := by
    obtain ⟨-, ms, z, rfl, hready⟩ := readied_of_drifts hplain hothers hb hend
    obtain ⟨rfl, z', hrunning⟩ := running_of_drifts hothers hready hc hcend
    refine ⟨(List.length_map _).symm, ?_, hrunning.nodup_tasks⟩
    intro m' hm'
    obtain ⟨m, hm, rfl⟩ := List.mem_map.1 hm'
    exact hrunning.started m hm
  stops b ready hb hend c n hc hcend d e hd he heend f hf := by
    obtain ⟨-, ms, z, rfl, hready⟩ := readied_of_drifts hplain hothers hb hend
    obtain ⟨-, z', hrunning⟩ := running_of_drifts hothers hready hc hcend
    obtain ⟨z'', hrunning'⟩ := hrunning.around hothers hcend hd
    exact (stopped_of_drifts hothers hrunning' he heend).silent ho hothers heend hf

/-- Whatever the modules of a house are made of, and however its parts are interleaved.

Making ready comes to an end, and then each module has been made ready exactly once, in order, and
those are told with which that has succeeded. Starting them comes to an end, and then each of them
runs with a task of its own, and they have been counted. From then on any time may pass. Once
stopping them has come to an end, whenever it was asked for, each of them has stopped, no task is
going on, and from then on no task does anything any more. -/
theorem whole_life (log : LogEntry → δ → δ) (report : Module (House δ) → Fault → LogEntry)
    (residents : List (Resident δ)) (now : Nat) (world : δ) (others : House δ → House δ → Prop)
    (hplain : ∀ r ∈ residents, r.Plain) (ho : Interference others)
    (hothers : ∀ h h', others h h' → Outside h h') :
    (∀ b, (opening log report residents now world).Drifts others b →
      ∃ b' ready, b.Drifts others b' ∧ b'.main = .ended ready) ∧
    ∀ b ready, (opening log report residents now world).Drifts others b →
      b.main = .ended ready →
      MadeReady log residents ready b ∧
      (∀ c, (b.turnTo (Module.startAll ready)).Drifts others c →
        ∃ c' n, c.Drifts others c' ∧ c'.main = .ended n) ∧
      ∀ c n, (b.turnTo (Module.startAll ready)).Drifts others c → c.main = .ended n →
        n = ready.length ∧ (∀ m ∈ ready, m.Started c) ∧
        (ready.map fun m => (m.worker.get c.state).task).Nodup ∧
        ∀ d e, c.Drifts others d → (d.turnTo (Module.abortAll ready)).Drifts others e →
          e.main = .ended () → ∀ f, e.Drifts others f → Silent others ready e f := by
  have hlife := lifetime_of_plain log report now world hplain ho hothers
  refine ⟨hlife.comes, fun b ready hb hend => ?_⟩
  refine ⟨hlife.readies b ready hb hend, hlife.starts b ready hb hend, fun c n hc hcend => ?_⟩
  obtain ⟨hcount, hstarted, hnodup⟩ := hlife.runs b ready hb hend c n hc hcend
  exact ⟨hcount, hstarted, hnodup, hlife.stops b ready hb hend c n hc hcend⟩

/-! ## Three modules, two of which share a device -/

/-- A heating controller with one register, and what its modules share. -/
structure Boiler where
  register : Nat := 20
  cache : Cache := .empty
  metrics : Metrics := .empty

/-- The cache and the counts of the modules of the boiler. -/
def boilerLedger : Ledger Boiler where
  cache := ⟨Boiler.cache, fun c b => { b with cache := c }⟩
  metrics := ⟨Boiler.metrics, fun m b => { b with metrics := m }⟩

/-- It takes one and a half seconds to read the boiler. -/
def boilerPoller : Resident Boiler :=
  .poller
    { name := "solvis"
      init := .locked (pure (.ok ()))
      query := .locked do
        .pause (.ofMillis 1500)
        return .ok (← .look).register }
    .discard boilerLedger (fun n => .ok (.int n)) (.ofMillis 1000)

/-- A stove that cannot be reached. -/
def coldStove : Resident Boiler :=
  .poller (ρ := Nat)
    { name := "hafnertec"
      init := pure (.error (.timeout "hafnertec"))
      query := pure (.error (.timeout "hafnertec")) }
    .discard boilerLedger (fun n => .ok (.int n)) (.ofMillis 1000)

/-- The boiler is written to over the same connection. -/
def boilerUpdater : Resident Boiler :=
  .updater
    { name := "solvis-updater"
      init := .locked (pure (.ok ()))
      apply := .locked do
        .change fun b => { b with register := b.register + 1 }
        return .ok () }
    boilerLedger (.ofMillis 1000)

/-- They are to be made ready. -/
def boilerOpening : Schedule (House Boiler) (List (Module (House Boiler))) :=
  opening (fun _ b => b) (fun m _ => m.lifeLine .error "module disabled")
    [boilerPoller, coldStove, boilerUpdater] 0 {}

/-- Two of them are. -/
def boilerReady : List (Module (House Boiler)) :=
  accepted (modules (fun _ b => b) [boilerPoller, coldStove, boilerUpdater])
    [.ok (), .error (.timeout "hafnertec"), .ok ()]

/-- They have just been started. -/
def boilerStarted : Schedule (House Boiler) Nat :=
  ((boilerOpening.later 1).turnTo (Module.startAll boilerReady)).later 1

/-- After one second the boiler is being read, and the updater waits for the connection; then all
modules are stopped. -/
def boilerStopping : Schedule (House Boiler) Unit :=
  (boilerStarted.later 7).turnTo (Module.abortAll boilerReady)

/-- The three of them leave tasks alone, and give the lock back. -/
theorem boiler_plain : ∀ r ∈ [boilerPoller, coldStove, boilerUpdater], r.Plain := by
  simp [boilerPoller, coldStove, boilerUpdater, Resident.Plain, Sink.discard, Routine.Bracketed,
    Routine.Taskless, Routine.locked, Routine.pause, Routine.look, Routine.change, Routine.bind,
    pure, bind]

/-- The reading is finished, and so is the writing behind it, and then all is quiet. -/
theorem whole_life_boiler :
    (boilerStarted.later 7).queue = [some 2] ∧
    boilerReady.map (·.name) = ["solvis", "solvis-updater"] ∧
    MadeReady (fun _ b => b) [boilerPoller, coldStove, boilerUpdater] boilerReady
      (boilerOpening.later 1) ∧
    boilerStarted.main = .ended 2 ∧ (∀ m ∈ boilerReady, m.Started boilerStarted) ∧
    (boilerStopping.later 10).main = .ended () ∧
    (boilerStopping.later 10).state.deeds =
      [(0, .device), (0, .counted), (0, .cached), (2, .device), (2, .counted)] ∧
    ∀ f, (boilerStopping.later 10).Drifts Outside f →
      Silent Outside boilerReady (boilerStopping.later 10) f := by
  have hlife := whole_life (fun _ b => b) (fun m _ => m.lifeLine .error "module disabled")
    [boilerPoller, coldStove, boilerUpdater] 0 {} Outside boiler_plain interference_outside
    fun _ _ h => h
  have hready : (boilerOpening.later 1).main = .ended boilerReady := rfl
  have hstarted : boilerStarted.main = .ended 2 := rfl
  have hstopped : (boilerStopping.later 10).main = .ended () := rfl
  obtain ⟨hmade, -, hstart⟩ := hlife.2 _ _ (Schedule.drifts_later boilerOpening 1) hready
  obtain ⟨-, hrunning, -, hstop⟩ := hstart _ _ (Schedule.drifts_later _ 1) hstarted
  refine ⟨by decide +kernel, by decide +kernel, hmade, hstarted, hrunning, hstopped,
    by decide +kernel, ?_⟩
  exact hstop _ _ (Schedule.drifts_later boilerStarted 7) (Schedule.drifts_later _ 10) hstopped

end House

end HomeEnergy
