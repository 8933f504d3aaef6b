import HomeEnergy.Proofs.Worker.Watch

/-!
# The course of the calls of a module

What initialization, a start, a stop and a wait do to a module under watch, in all cases, while its
devices and its task do what they like and tasks end when they like.

## Main results

* `ModuleWatch.assured_init` — initialization goes through its steps up to the first that fails.
* `ModuleWatch.assured_start` — a start launches the task, or changes nothing.
* `ModuleWatch.assured_abort`, `ModuleWatch.assured_wait` — both return behind the end of the task.
-/

namespace HomeEnergy.ModuleWatch

variable {δ : Type} {s t u : Scene (ModuleWatch δ)} {news : List InitDeed} {q : Request}

/-! ## Initialization -/

/-- A step of initialization does its two deeds. -/
theorem assured_doing {step : InitStep} {p : Routine δ (Outcome Unit)} (hp : p.Taskless)
    {post : Outcome Unit → Scene (ModuleWatch δ) → Prop}
    (h : ∀ a u, Since [.asked step, .answered step a] s u → post a u) :
    (doing step p).Assured Around (Forward q) post s := by
  refine Routine.assured_do interference_around (Routine.assured_change fun t ht => ?_)
  refine ⟨forward_of_same rfl, fun u hu => ?_⟩
  have hasked : Since [.asked step] s u := (ht.since.trans (since_note _)).after hu
  refine Routine.assured_do interference_around ?_
  refine Routine.assured_within interference_around around_device hp fun a v hv => ?_
  refine Routine.assured_do interference_around (Routine.assured_change fun x hx => ?_)
  refine ⟨forward_of_same rfl, fun y hy z hz => h a z ?_⟩
  have hanswered := ((hasked.after hv).after hx).trans (since_note (.answered step a))
  exact (hanswered.after hy).after hz

/-- Steps are taken in their order, up to the first that fails, which decides the result. -/
inductive Attempt : List InitStep → List InitDeed → Outcome Unit → Prop where
  | all : Attempt [] [] (.ok ())
  | failed (step : InitStep) (rest : List InitStep) (f : Fault) :
      Attempt (step :: rest) [.asked step, .answered step (.error f)] (.error f)
  | next {rest : List InitStep} {deeds : List InitDeed} {r : Outcome Unit} (step : InitStep)
      (others : Attempt rest deeds r) :
      Attempt (step :: rest) (.asked step :: .answered step (.ok ()) :: deeds) r

/-- Only steps are answered. -/
theorem Attempt.mem_of_answered {steps : List InitStep} {deeds : List InitDeed} {r a : Outcome Unit}
    {step : InitStep} (h : Attempt steps deeds r) (hmem : .answered step a ∈ deeds) :
    step ∈ steps := by
  induction h with
  | all => simp at hmem
  | failed first rest f =>
      simp only [List.mem_cons, reduceCtorEq, InitDeed.answered.injEq, List.not_mem_nil, or_false,
        false_or] at hmem
      simp [hmem.1]
  | next first _ ih =>
      simp only [List.mem_cons, reduceCtorEq, InitDeed.answered.injEq, false_or] at hmem
      rcases hmem with ⟨rfl, _⟩ | hmem
      · simp
      · simp [ih hmem]

/-- Nothing is asked behind a first step that has failed. -/
theorem Attempt.eq_of_failed {step : InitStep} {rest : List InitStep} {deeds : List InitDeed}
    {r : Outcome Unit} {f : Fault} (h : Attempt (step :: rest) deeds r) (honce : step ∉ rest)
    (hmem : .answered step (.error f) ∈ deeds) :
    deeds = [.asked step, .answered step (.error f)] := by
  cases h with
  | failed _ _ g =>
      simp only [List.mem_cons, reduceCtorEq, InitDeed.answered.injEq, true_and, Except.error.injEq,
        List.not_mem_nil, or_false, false_or] at hmem
      rw [hmem]
  | next _ others =>
      simp only [List.mem_cons, reduceCtorEq, InitDeed.answered.injEq, and_false, false_or] at hmem
      exact absurd (others.mem_of_answered hmem) honce

/-- The device is not asked to be made ready when the sink could not be. -/
theorem Attempt.unmet {plan : Plan δ} {listening : Bool} {deeds : List InitDeed} {r : Outcome Unit}
    {f : Fault} (h : Attempt (plan.steps listening) deeds r)
    (hmem : .answered .prepare (.error f) ∈ deeds) : .asked .meet ∉ deeds := by
  cases plan with
  | poller _ _ _ _ => rw [h.eq_of_failed (by decide) hmem]; simp
  | updater _ _ => exact absurd (h.mem_of_answered hmem) (by simp [Plan.steps])
  | receiver _ _ _ =>
      cases listening with
      | true => rw [h.eq_of_failed (by decide) hmem]; simp
      | false => rw [h.eq_of_failed (by decide) hmem]; simp

/-- The ways in which initialization ends. If it fails, nothing has happened but its steps. -/
inductive Inits (plan : Plan δ) (s u : Scene (ModuleWatch δ)) : Outcome Unit → Prop where
  | ready {news : List InitDeed} (attempt : Attempt (plan.steps s.state.listening) news (.ok ()))
      (worker : u.state.worker = s.state.worker.markInitialized)
      (listening : u.state.listening = (s.state.listening || plan.listens))
      (deeds : u.state.deeds = s.state.deeds ++ news) (spawned : Fading s.spawned u.spawned) :
      Inits plan s u (.ok ())
  | failed {news : List InitDeed} {f : Fault}
      (attempt : Attempt (plan.steps s.state.listening) news (.error f)) (since : Since news s u) :
      Inits plan s u (.error f)

theorem rank_markInitialized (w : Worker) : w.state.rank ≤ w.markInitialized.state.rank := by
  unfold Worker.markInitialized
  split
  · rename_i h
    simp [h, ModuleState.rank]
  · exact Nat.le_refl _

theorem aborting_of_markInitialized {w : Worker} (h : w.markInitialized.state = .aborting) :
    w.state = .aborting := by
  unfold Worker.markInitialized at h
  split at h
  · cases h
  · exact h

/-- The last thing that initialization does, when all steps have been taken. -/
theorem assured_mark {plan : Plan δ}
    (attempt : Attempt (plan.steps s.state.listening) news (.ok ()))
    (worker : t.state.worker = s.state.worker)
    (listening : t.state.listening = (s.state.listening || plan.listens))
    (deeds : t.state.deeds = s.state.deeds ++ news) (spawned : Fading s.spawned t.spawned) :
    (do
      Routine.change (workerPart.modify Worker.markInitialized)
      return .ok () : Routine (ModuleWatch δ) (Outcome Unit)).Assured Around (Forward q)
        (fun r u => Inits plan s u r) t := by
  refine Routine.assured_do interference_around (Routine.assured_change fun u hu => ?_)
  refine ⟨forward_of_worker (rank_markInitialized _) fun h => .inl (aborting_of_markInitialized h),
    fun v hv x hx => .ready attempt ?_ ?_ ?_ ?_⟩
  · rw [hx.state.worker, hv.state.worker, ← worker, ← hu.state.worker]
    rfl
  · rw [hx.state.listening, hv.state.listening, ← listening, ← hu.state.listening]
    rfl
  · rw [hx.state.deeds, hv.state.deeds, ← deeds, ← hu.state.deeds]
    rfl
  · exact ((spawned.trans hu.spawned).trans hv.spawned).trans hx.spawned

/-- The last things that initialization of a receiver does: there is a listener now. -/
private theorem assured_listening {settings : WeatherSettings} {k : Sink δ Weather.Record}
    {bind : String → Routine δ (Outcome Unit)}
    (attempt : Attempt ((Plan.receiver settings k bind).steps s.state.listening) news (.ok ()))
    (since : Since news s t) :
    (do
      Routine.change (listeningPart.set true)
      Routine.change (workerPart.modify Worker.markInitialized)
      return .ok () : Routine (ModuleWatch δ) (Outcome Unit)).Assured Around (Forward q)
        (fun r u => Inits (.receiver settings k bind) s u r) t := by
  refine Routine.assured_do interference_around (Routine.assured_change fun u hu => ?_)
  refine ⟨forward_of_same rfl, fun v hv => ?_⟩
  have hsince := since.after hu
  refine assured_mark attempt ?_ ?_ ?_ (hsince.spawned.trans hv.spawned)
  · exact hv.state.worker.trans hsince.worker
  · exact hv.state.listening.trans (Bool.or_true _).symm
  · exact hv.state.deeds.trans hsince.deeds

theorem assured_init {plan : Plan δ} (hplain : plan.Plain) (task : Nat) :
    (plan.toModule task).init.Assured Around (Forward q) (fun r u => Inits plan s u r) s := by
  cases plan with
  | poller source sink write interval =>
      obtain ⟨hprepare, hmeet⟩ := hplain
      refine Routine.assured_do interference_around (assured_doing hprepare fun a t ht => ?_)
      cases a with
      | error f => exact fun u hu => .failed (.failed _ _ f) (ht.after hu)
      | ok _ =>
          refine Routine.assured_do interference_around (assured_doing hmeet fun b u hu => ?_)
          have hboth := ht.trans hu
          cases b with
          | error f => exact fun v hv => .failed (.next _ (.failed _ _ f)) (hboth.after hv)
          | ok _ =>
              refine assured_mark (.next _ (.next _ .all)) hboth.worker ?_ hboth.deeds hboth.spawned
              exact hboth.listening.trans (Bool.or_false _).symm
  | updater action interval =>
      refine Routine.assured_do interference_around (assured_doing hplain fun a t ht => ?_)
      cases a with
      | error f => exact fun u hu => .failed (.failed _ _ f) (ht.after hu)
      | ok _ =>
          refine assured_mark (.next _ .all) ht.worker ?_ ht.deeds ht.spawned
          exact ht.listening.trans (Bool.or_false _).symm
  | receiver settings sink bind =>
      obtain ⟨hprepare, hlisten⟩ := hplain
      refine Routine.assured_do interference_around (assured_doing hprepare fun a t ht => ?_)
      cases hl : s.state.listening with
      | true =>
          have hsteps : (Plan.receiver settings sink bind).steps s.state.listening =
              [.prepare] := by
            rw [hl]
            rfl
          cases a with
          | error f => exact fun u hu => .failed (hsteps ▸ .failed _ _ f) (ht.after hu)
          | ok _ =>
              refine Routine.assured_do interference_around
                (Routine.assured_look forward_refl fun u hu v hv => ?_)
              have hsince := (ht.after hu).after hv
              have hopen : (receiver settings sink bind task).listening.get u.state = true :=
                (ht.after hu).listening.trans hl
              simp only [hopen, if_true]
              exact assured_listening (hsteps ▸ .next _ .all) hsince
      | false =>
          have hsteps : (Plan.receiver settings sink bind).steps s.state.listening =
              [.prepare, .listen] := by
            rw [hl]
            rfl
          cases a with
          | error f => exact fun u hu => .failed (hsteps ▸ .failed _ _ f) (ht.after hu)
          | ok _ =>
              refine Routine.assured_do interference_around
                (Routine.assured_look forward_refl fun u hu v hv => ?_)
              have hsince := (ht.after hu).after hv
              have hclosed : (receiver settings sink bind task).listening.get u.state = false :=
                (ht.after hu).listening.trans hl
              simp only [hclosed, Bool.false_eq_true, if_false]
              refine Routine.assured_do interference_around (assured_doing hlisten fun b x hx => ?_)
              have hboth := hsince.trans hx
              cases b with
              | error f =>
                  exact fun y hy => .failed (hsteps ▸ .next _ (.failed _ _ f)) (hboth.after hy)
              | ok _ => exact assured_listening (hsteps ▸ .next _ (.next _ .all)) hboth

/-! ## Starting -/

/-- The ways in which a start ends. A start that is refused has done nothing. -/
inductive Starts (plan : Plan δ) (task : Nat) (s u : Scene (ModuleWatch δ)) : Outcome Unit → Prop
  where
  | launched (ready : s.state.worker.state = .initialized)
      (worker : u.state.worker = { s.state.worker with state := .running, task := some task })
      (listening : u.state.listening = (s.state.listening && !plan.listens))
      (deeds : u.state.deeds = s.state.deeds)
      (spawned : Fading (s.spawned ++ [⟨task, none⟩]) u.spawned) : Starts plan task s u (.ok ())
  | refused {f : Fault} (unready : s.state.worker.state ≠ .initialized) (since : Since [] s u) :
      Starts plan task s u (.error f)

/-- A worker that is ready, and has never been started, launches its task. -/
theorem assured_launch {plan : Plan δ} {task : Nat} (hready : s.state.worker.state = .initialized)
    (hfirst : s.spawned = []) (worker : t.state.worker = s.state.worker)
    (listening : t.state.listening = (s.state.listening && !plan.listens))
    (deeds : t.state.deeds = s.state.deeds) (spawned : Fading s.spawned t.spawned) :
    (Worker.start workerPart task).Assured Around (Forward q)
      (fun r u => Starts plan task s u r) t := by
  refine Routine.assured_do interference_around
    (Routine.assured_look forward_refl fun u hu v hv => ?_)
  have hstartable : (workerPart.get u.state).startable = .ok () := by
    rw [Worker.startable_eq_ok_iff]
    show u.state.worker.state = _
    rw [hu.state.worker, worker, hready]
  have hbefore := (interference_around.trans hu hv)
  simp only [hstartable]
  refine Routine.assured_do interference_around fun x hx => ?_
  have hnone : Fading [] x.spawned := by
    rw [← hfirst]
    exact (spawned.trans hbefore.spawned).trans hx.spawned
  have hspawned : x.spawned = [] := hnone.of_nil
  have hworker : x.state.worker = s.state.worker := by
    rw [hx.state.worker, hbefore.state.worker, worker]
  have hlaunched : (x.launch task).spawned = [⟨task, none⟩] := by
    simp [Scene.launch, hspawned]
  have hinitialized : x.state.worker.state = .initialized := by
    rw [hworker, hready]
  refine ⟨⟨Nat.le_refl _, .inl, .inr ⟨hinitialized, hspawned, task, hlaunched⟩⟩, fun y hy => ?_⟩
  refine Routine.assured_do interference_around (Routine.assured_change fun z hz => ?_)
  have hz' := interference_around.trans hy hz
  have hzworker : z.state.worker = s.state.worker := hz'.state.worker.trans hworker
  refine ⟨forward_of_worker ?_ (by simp), fun a ha b hb => ?_⟩
  · rw [hzworker, hready]
    exact (by decide : 1 ≤ 2)
  have hend := interference_around.trans ha hb
  refine .launched hready ?_ ?_ ?_ ?_
  · rw [hend.state.worker, ← hzworker]
    rfl
  · rw [hend.state.listening, ← listening, ← hbefore.state.listening, ← hx.state.listening]
    exact hz'.state.listening
  · rw [hend.state.deeds, ← deeds, ← hbefore.state.deeds, ← hx.state.deeds]
    exact hz'.state.deeds
  · rw [hfirst, List.nil_append, ← hlaunched]
    exact hz'.spawned.trans hend.spawned

/-- A worker that is not ready is not started, and nothing happens. -/
theorem refused_of_startable {plan : Plan δ} {task : Nat} {f : Fault}
    (hf : t.state.worker.startable = .error f) (hbefore : Around s t) (hafter : Around t u) :
    Starts plan task s u (.error f) := by
  refine .refused (fun hready => ?_) (interference_around.trans hbefore hafter).since
  rw [← hbefore.state.worker, ← Worker.startable_eq_ok_iff, hf] at hready
  cases hready

/-- The start of a worker of a module without a listener. -/
theorem assured_workerStart {plan : Plan δ} {task : Nat}
    (hready : s.state.worker.state = .initialized → s.spawned = [])
    (hlistens : plan.listens = false) :
    (Worker.start workerPart task).Assured Around (Forward q)
      (fun r u => Starts plan task s u r) s := by
  by_cases hstate : s.state.worker.state = .initialized
  · exact assured_launch hstate (hready hstate) rfl (by simp [hlistens]) rfl (.refl _)
  · refine Routine.assured_do interference_around
      (Routine.assured_look forward_refl fun t ht u hu => ?_)
    cases hf : (workerPart.get t.state).startable with
    | error f =>
        exact fun v hv => refused_of_startable hf ht (interference_around.trans hu hv)
    | ok _ =>
        rw [Worker.startable_eq_ok_iff] at hf
        exact absurd (ht.state.worker ▸ hf) hstate

theorem assured_start {plan : Plan δ} (task : Nat)
    (hready : s.state.worker.state = .initialized →
      s.spawned = [] ∧ (plan.listens = true → s.state.listening = true)) :
    (plan.toModule task).start.Assured Around (Forward q)
      (fun r u => Starts plan task s u r) s := by
  cases plan with
  | poller _ _ _ _ => exact assured_workerStart (fun h => (hready h).1) rfl
  | updater _ _ => exact assured_workerStart (fun h => (hready h).1) rfl
  | receiver settings sink bind =>
      refine Routine.assured_do interference_around
        (Routine.assured_look forward_refl fun t ht u hu => ?_)
      cases hf : ((receiver settings sink bind task).worker.get t.state).startable with
      | error f =>
          exact fun v hv => refused_of_startable hf ht (interference_around.trans hu hv)
      | ok _ =>
          rw [Worker.startable_eq_ok_iff] at hf
          have hstate : s.state.worker.state = .initialized := ht.state.worker ▸ hf
          obtain ⟨hfirst, hlistening⟩ := hready hstate
          refine Routine.assured_do interference_around
            (Routine.assured_look forward_refl fun v hv x hx => ?_)
          have hbefore := interference_around.trans ht (interference_around.trans hu hv)
          have hopen : (receiver settings sink bind task).listening.get v.state = true :=
            hbefore.state.listening.trans (hlistening rfl)
          simp only [hopen, Bool.not_true, Bool.false_eq_true, if_false]
          refine Routine.assured_do interference_around
            (Routine.assured_change fun y hy => ⟨forward_of_same rfl, fun z hz => ?_⟩)
          have hthen := interference_around.trans hbefore (interference_around.trans hx hy)
          refine assured_launch hstate hfirst ?_ ?_ ?_ (hthen.spawned.trans hz.spawned)
          · exact hz.state.worker.trans hthen.state.worker
          · exact hz.state.listening.trans (Bool.and_false _).symm
          · exact hz.state.deeds.trans hthen.state.deeds

/-! ## Stopping -/

/-- How a stop ends: the task, if the worker knows one, is over, and the worker has stopped. -/
structure Stops (s u : Scene (ModuleWatch δ)) : Prop where
  worker : u.state.worker = s.state.worker.stopped
  listening : u.state.listening = s.state.listening
  deeds : u.state.deeds = s.state.deeds
  spawned : Fading s.spawned u.spawned
  joined : ∀ i, s.state.worker.task = some i → u.IsOver i

theorem Stops.after (h : Stops s t) (ha : Around t u) : Stops s u where
  worker := ha.state.worker.trans h.worker
  listening := ha.state.listening.trans h.listening
  deeds := ha.state.deeds.trans h.deeds
  spawned := h.spawned.trans ha.spawned
  joined i hi := (h.joined i hi).after ha.spawned

/-- The worker has stopped, when its task is over. -/
private theorem assured_leave (hworker : t.state.worker.stopped = s.state.worker.stopped)
    (hlistening : t.state.listening = s.state.listening) (hdeeds : t.state.deeds = s.state.deeds)
    (hspawned : Fading s.spawned t.spawned)
    (hover : ∀ i, s.state.worker.task = some i → t.IsOver i) :
    (Worker.leave workerPart).Assured Around (Forward q) (fun _ u => Stops s u) t := by
  refine Routine.assured_change fun u hu => ?_
  refine ⟨forward_of_worker ?_ (by simp [Worker.stopped]), fun v hv => ?_⟩
  · exact ModuleState.rank_le u.state.worker.state
  · refine ⟨?_, ?_, ?_, (hspawned.trans hu.spawned).trans hv.spawned, fun i hi => ?_⟩
    · rw [hv.state.worker, ← hworker, ← hu.state.worker]
      rfl
    · rw [hv.state.listening, ← hlistening, ← hu.state.listening]
      rfl
    · rw [hv.state.deeds, ← hdeeds, ← hu.state.deeds]
      rfl
    · exact (hover i hi).after (hu.spawned.trans hv.spawned)

/-- A wait for the end of the task, of a worker that may have been asked to stop before. -/
theorem assured_wait (hworker : t.state.worker.stopped = s.state.worker.stopped)
    (htask : t.state.worker.task = s.state.worker.task)
    (hlistening : t.state.listening = s.state.listening) (hdeeds : t.state.deeds = s.state.deeds)
    (hspawned : Fading s.spawned t.spawned) :
    (Worker.wait workerPart).Assured Around (Forward q) (fun _ u => Stops s u) t := by
  refine Routine.assured_do interference_around
    (Routine.assured_look forward_refl fun u hu v hv => ?_)
  have hbefore := interference_around.trans hu hv
  have htask' : (workerPart.get u.state).task = s.state.worker.task := by
    rw [← htask, ← hu.state.worker]
    rfl
  -- The task may have to be waited for; what remains is the same in both cases.
  have hleave : ∀ x, Around v x → (∀ i, s.state.worker.task = some i → x.IsOver i) →
      (Worker.leave workerPart).Assured Around (Forward q) (fun _ u => Stops s u) x := by
    intro x hx hover
    have hsince := interference_around.trans hbefore hx
    refine assured_leave ?_ (hsince.state.listening.trans hlistening)
      (hsince.state.deeds.trans hdeeds) (hspawned.trans hsince.spawned) hover
    rw [hsince.state.worker, hworker]
  cases hs : s.state.worker.task with
  | none =>
      rw [hs] at htask'
      simp only [htask']
      exact hleave v (interference_around.refl v) (by simp [hs])
  | some i =>
      rw [hs] at htask'
      simp only [htask']
      refine Routine.assured_do interference_around fun x hx hover y hy => ?_
      refine hleave y (interference_around.trans hx hy) fun j hj => ?_
      rw [hs] at hj
      cases hj
      exact hover.after hy.spawned

theorem assured_abort (hstopped : s.state.worker.state = .stopped → s.state.worker.task = none) :
    (Worker.abort workerPart).Assured Around (Forward .abort) (fun _ u => Stops s u) s := by
  refine Routine.assured_do interference_around
    (Routine.assured_look forward_refl fun t ht u hu => ?_)
  have hbefore := interference_around.trans ht hu
  by_cases hstate : s.state.worker.state = .stopped
  · have hstate' : (workerPart.get t.state).state = .stopped := by
      rw [← hstate, ← ht.state.worker]
      rfl
    simp only [hstate', if_true]
    have hnone := hstopped hstate
    refine fun v hv => ?_
    have hsince := interference_around.trans hbefore hv
    refine ⟨?_, hsince.state.listening, hsince.state.deeds, hsince.spawned, by simp [hnone]⟩
    rw [hsince.state.worker, Worker.stopped, ← hstate, ← hnone]
  · have hstate' : ¬(workerPart.get t.state).state = .stopped := by
      rw [← ht.state.worker] at hstate
      exact hstate
    simp only [hstate', if_false]
    refine Routine.assured_do interference_around (Routine.assured_change fun v hv => ?_)
    have hthen := interference_around.trans hbefore hv
    refine ⟨forward_of_worker ?_ fun _ => .inr rfl, fun x hx => ?_⟩
    · rw [hthen.state.worker]
      exact ModuleState.rank_le_of_ne_stopped hstate
    · -- Asking the task to end changes nothing here; it may end at any time.
      have hwait : (Worker.wait workerPart).Assured Around (Forward .abort)
          (fun _ u => Stops s u) x := by
        refine assured_wait ?_ ?_ ?_ ?_ (hthen.spawned.trans hx.spawned)
        · rw [hx.state.worker, ← hthen.state.worker]
          rfl
        · rw [hx.state.worker, ← hthen.state.worker]
          rfl
        · exact hx.state.listening.trans hthen.state.listening
        · exact hx.state.deeds.trans hthen.state.deeds
      cases htask : (workerPart.get t.state).task with
      | none => exact hwait
      | some i => exact hwait

end HomeEnergy.ModuleWatch
