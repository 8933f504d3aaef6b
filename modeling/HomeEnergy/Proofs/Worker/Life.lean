import HomeEnergy.Proofs.Worker.Course
import Mathlib.Logic.Relation

/-!
# The life of a module

A module is used by one call after the other, in any order: initialization, which may fail at any of
its steps, and be repeated; a start; a stop; a wait. Each call goes step by step, and between two
steps anything may happen around the module: devices and caches change, and tasks end, normally or
by a panic. `Usage` is a module in use, with all calls that are over and all tasks that have been
launched.

## Main results

* `ModuleWatch.Sound.step` — what every step of every call preserves.
* `ModuleWatch.calls_of_usage` — the life of a module, whatever is asked of it.
-/

namespace HomeEnergy

variable {σ : Type}

/-! ## Modules in use -/

/-- A call that is over. -/
structure Called (σ : Type) where
  request : Request
  /-- A stop and a wait always succeed. -/
  result : Outcome Unit
  begun : Scene σ
  ended : Scene σ

/-- A call that is not over yet. -/
structure Calling (σ : Type) where
  request : Request
  begun : Scene σ
  rest : Routine σ (Outcome Unit)

/-- A module in use. -/
structure Usage (σ : Type) where
  scene : Scene σ
  /-- In the order in which they were made. -/
  past : List (Called σ) := []
  pending : Option (Calling σ) := none

namespace Called

/-- An initialization that has succeeded. -/
def Readies (c : Called σ) : Prop := c.request = .init ∧ c.result = .ok ()

/-- A start that has succeeded. -/
def Launches (c : Called σ) : Prop := c.request = .start ∧ c.result = .ok ()

/-- A stop or a wait. -/
def Halts (c : Called σ) : Prop := c.request = .abort ∨ c.request = .wait

end Called

/-- What is asked of a module, as a routine. -/
def Module.call (m : Module σ) : Request → Routine σ (Outcome Unit)
  | .init => m.init
  | .start => m.start
  | .abort => do
    m.abort
    return .ok ()
  | .wait => do
    m.wait
    return .ok ()

namespace Usage

/-- One step: something is asked of the module, something happens around it, its call goes on, or
its call is over. There is one call at a time. -/
inductive Step (m : Module σ) (around : Scene σ → Scene σ → Prop) (u : Usage σ) : Usage σ → Prop
  where
  | call (idle : u.pending = none) (q : Request) :
      Step m around u { u with pending := some ⟨q, u.scene, m.call q⟩ }
  | outside {s : Scene σ} (change : around u.scene s) : Step m around u { u with scene := s }
  | go {c : Calling σ} {rest : Routine σ (Outcome Unit)} {s : Scene σ}
      (pending : u.pending = some c) (step : c.rest.Goes u.scene rest s) :
      Step m around u { u with scene := s, pending := some { c with rest } }
  | finish {c : Calling σ} {r : Outcome Unit} (pending : u.pending = some c)
      (ended : c.rest = .done r) :
      Step m around u
        { u with past := u.past ++ [⟨c.request, r, c.begun, u.scene⟩], pending := none }

/-- Any number of steps. -/
abbrev Reach (m : Module σ) (around : Scene σ → Scene σ → Prop) : Usage σ → Usage σ → Prop :=
  Relation.ReflTransGen (Step m around)

/-- Something has been asked of a module and has been done undisturbed. -/
def after (m : Module σ) (e : Ending) (u : Usage σ) (q : Request) : Usage σ :=
  let (r, s) := (m.call q).finish e u.scene
  { u with scene := s, past := u.past ++ [⟨q, r, u.scene, s⟩] }

/-- A call can go on to its end. -/
theorem reach_finish {m : Module σ} {around : Scene σ → Scene σ → Prop} {e : Ending}
    (hend : ∀ s : Scene σ, around s (s.endAll e)) (u : Usage σ) (q : Request) (b : Scene σ)
    (p : Routine σ (Outcome Unit)) :
    Reach m around { u with pending := some ⟨q, b, p⟩ }
      { u with
        scene := (p.finish e u.scene).2
        past := u.past ++ [⟨q, (p.finish e u.scene).1, b, (p.finish e u.scene).2⟩]
        pending := none } := by
  induction p generalizing u with
  | done a => exact .single (Step.finish (c := ⟨q, b, .done a⟩) rfl rfl)
  | act change next ih => exact .head (.go rfl (.act change next _)) (ih _ { u with scene := _ })
  | clock next ih => exact .head (.go rfl (.clock next 0 _)) (ih 0 u)
  | sleep d next ih => exact .head (.go rfl (.sleep d next _)) (ih u)
  | acquire next ih => exact .head (.go rfl (.acquire next _)) (ih u)
  | release next ih => exact .head (.go rfl (.release next _)) (ih u)
  | launch i next ih => exact .head (.go rfl (.launch i next _)) (ih { u with scene := _ })
  | cancel i next ih => exact .head (.go rfl (.cancel i next _)) (ih u)
  | join i next ih =>
      refine .head (.outside (hend _)) (.head (.go rfl (.join i next _ ?_)) ?_)
      · exact Scene.isOver_endAll e _ i
      · exact ih { u with scene := _ }

theorem reach_after {m : Module σ} {around : Scene σ → Scene σ → Prop} {e : Ending}
    (hend : ∀ s : Scene σ, around s (s.endAll e)) {u : Usage σ} (hidle : u.pending = none)
    (q : Request) : Reach m around u (u.after m e q) := by
  have hend := reach_finish (m := m) hend u q u.scene (m.call q)
  have heq : u.after m e q =
      { u with
        scene := ((m.call q).finish e u.scene).2
        past := u.past ++ [⟨q, ((m.call q).finish e u.scene).1, u.scene,
          ((m.call q).finish e u.scene).2⟩]
        pending := none } := by
    rw [after, ← hidle]
  rw [heq]
  exact .head (.call hidle q) hend

/-- One thing after the other can be asked of a module, and be done. -/
theorem reach_foldl {m : Module σ} {around : Scene σ → Scene σ → Prop} {e : Ending}
    (hend : ∀ s : Scene σ, around s (s.endAll e)) (qs : List Request) {u : Usage σ}
    (hidle : u.pending = none) : Reach m around u (qs.foldl (after m e) u) := by
  induction qs generalizing u with
  | nil => exact .refl
  | cons q qs ih => exact (reach_after hend hidle q).trans (ih hidle)

theorem pending_foldl {m : Module σ} {e : Ending} (qs : List Request) (u : Usage σ) :
    (qs.foldl (after m e) u).pending = u.pending := by
  induction qs generalizing u with
  | nil => rfl
  | cons q qs ih => exact ih (u.after m e q)

/-- The calls that are over, with whether they have succeeded. -/
def calls (u : Usage σ) : List (Request × Bool) :=
  u.past.map fun c => (c.request, c.result.isOk)

theorem exists_of_calls {u : Usage σ} {calls : List (Request × Bool)} {q : Request}
    (hcalls : u.calls = calls) (h : ∃ ok, (q, ok) ∈ calls) : ∃ c ∈ u.past, c.request = q := by
  subst hcalls
  obtain ⟨ok, hok⟩ := h
  obtain ⟨c, hc, heq⟩ := List.mem_map.1 hok
  exact ⟨c, hc, congrArg Prod.fst heq⟩

end Usage

namespace ModuleWatch

variable {δ : Type} {plan : Plan δ} {task : Nat}

/-! ## What fits together -/

/-- A module that has not been used yet. -/
def unused (name : String) (d : δ) : Usage (ModuleWatch δ) :=
  { scene := ⟨{ worker := { name }, device := d }, []⟩ }

/-- What a module knows between two calls fits together. -/
structure Fits (plan : Plan δ) (task : Nat) (s : Scene (ModuleWatch δ)) : Prop where
  settled : s.state.worker.state ≠ .aborting
  fresh : s.state.worker.state = .constructed ∨ s.state.worker.state = .initialized →
    s.state.worker.task = none ∧ s.spawned = []
  listening : s.state.worker.state = .initialized → plan.listens = true → s.state.listening = true
  running : s.state.worker.state = .running →
    s.state.worker.task = some task ∧ ∃ e, s.spawned = [⟨task, e⟩]
  stopped : s.state.worker.state = .stopped →
    s.state.worker.task = none ∧ s.spawned.length ≤ 1 ∧ ∀ x ∈ s.spawned, x.ended.isSome

/-- The calls so far, by the state that they have led to. -/
def Stands (past : List (Called (ModuleWatch δ))) : ModuleState → Prop
  | .constructed => ∀ c ∈ past, ¬c.Readies ∧ ¬c.Launches ∧ ¬c.Halts
  | .initialized => (∃ c ∈ past, c.Readies) ∧ ∀ c ∈ past, ¬c.Launches ∧ ¬c.Halts
  | .running => (∃ c ∈ past, c.Launches) ∧ ∀ c ∈ past, ¬c.Halts
  | .aborting => False
  | .stopped => ∃ c ∈ past, c.Halts

/-- What a call does, from its beginning to its end. -/
def Way (plan : Plan δ) (task : Nat) (q : Request) (s : Scene (ModuleWatch δ)) (r : Outcome Unit)
    (t : Scene (ModuleWatch δ)) : Prop :=
  match q with
  | .init => Inits plan s t r
  | .start => Starts plan task s t r
  | .abort | .wait => Stops s t

variable {s t : Scene (ModuleWatch δ)} {past : List (Called (ModuleWatch δ))} {q : Request}
variable {r : Outcome Unit}

/-- A start succeeds from one state only, and the calls tell when that is. -/
theorem Stands.initialized_iff {state : ModuleState} (h : Stands past state) :
    state = .initialized ↔ (∃ c ∈ past, c.Readies) ∧ ∀ c ∈ past, ¬c.Launches ∧ ¬c.Halts := by
  constructor
  · rintro rfl
    exact h
  · rintro ⟨⟨c, hc, hready⟩, hnone⟩
    cases state with
    | constructed => exact absurd hready (h c hc).1
    | initialized => rfl
    | running =>
        obtain ⟨⟨d, hd, hlaunch⟩, -⟩ := h
        exact absurd hlaunch (hnone d hd).1
    | aborting => exact h.elim
    | stopped =>
        obtain ⟨d, hd, hhalts⟩ := h
        exact absurd hhalts (hnone d hd).2

/-- A call that changes neither the worker's state nor what is known of the calls before it. -/
theorem Stands.quiet {state : ModuleState} {c : Called (ModuleWatch δ)} (h : Stands past state)
    (hready : c.Readies → state ≠ .constructed) (hlaunch : ¬c.Launches) (hhalts : ¬c.Halts) :
    Stands (past ++ [c]) state := by
  have hmore : ∀ {p : Called (ModuleWatch δ) → Prop}, (∃ d ∈ past, p d) →
      ∃ d ∈ past ++ [c], p d := by
    rintro p ⟨d, hd, hp⟩
    exact ⟨d, by simp [hd], hp⟩
  cases state with
  | constructed =>
      intro d hd
      rcases List.mem_append.1 hd with hd | hd
      · exact h d hd
      · rw [List.mem_singleton.1 hd]
        exact ⟨fun hr => hready hr rfl, hlaunch, hhalts⟩
  | initialized =>
      refine ⟨hmore h.1, fun d hd => ?_⟩
      rcases List.mem_append.1 hd with hd | hd
      · exact h.2 d hd
      · rw [List.mem_singleton.1 hd]
        exact ⟨hlaunch, hhalts⟩
  | running =>
      refine ⟨hmore h.1, fun d hd => ?_⟩
      rcases List.mem_append.1 hd with hd | hd
      · exact h.2 d hd
      · rw [List.mem_singleton.1 hd]
        exact hhalts
  | aborting => exact h.elim
  | stopped => exact hmore h

/-- What fits together depends on the worker, the listener and the tasks. -/
theorem Fits.of_same (h : Fits plan task s) (hworker : t.state.worker = s.state.worker)
    (hlistening : s.state.listening = true → t.state.listening = true)
    (hspawned : Fading s.spawned t.spawned) : Fits plan task t := by
  refine ⟨?_, ?_, ?_, ?_, ?_⟩
  · rw [hworker]
    exact h.settled
  · rw [hworker]
    intro hstate
    obtain ⟨htask, hnone⟩ := h.fresh hstate
    rw [hnone] at hspawned
    exact ⟨htask, hspawned.of_nil⟩
  · rw [hworker]
    intro hstate hlistens
    exact hlistening (h.listening hstate hlistens)
  · rw [hworker]
    intro hstate
    obtain ⟨htask, e, hone⟩ := h.running hstate
    rw [hone] at hspawned
    exact ⟨htask, hspawned.of_single⟩
  · rw [hworker]
    intro hstate
    obtain ⟨htask, hfew, hended⟩ := h.stopped hstate
    refine ⟨htask, ?_, hspawned.all_ended hended⟩
    rw [← hspawned.length_eq]
    exact hfew

/-- A worker knows its task exactly while it runs. -/
theorem Fits.task_iff (h : Fits plan task s) :
    s.state.worker.task.isSome ↔ s.state.worker.state = .running := by
  constructor
  · intro htask
    cases hstate : s.state.worker.state with
    | constructed => simp [(h.fresh (.inl hstate)).1] at htask
    | initialized => simp [(h.fresh (.inr hstate)).1] at htask
    | running => rfl
    | aborting => exact absurd hstate h.settled
    | stopped => simp [(h.stopped hstate).1] at htask
  · intro hstate
    simp [(h.running hstate).1]

theorem Fits.after (h : Fits plan task s) (ha : Around s t) : Fits plan task t :=
  h.of_same ha.state.worker (fun hl => ha.state.listening.trans hl) ha.spawned

/-- A module that has been made ready. -/
theorem Fits.ready (h : Fits plan task s)
    (hworker : t.state.worker = s.state.worker.markInitialized)
    (hlistening : t.state.listening = (s.state.listening || plan.listens))
    (hspawned : Fading s.spawned t.spawned) : Fits plan task t := by
  by_cases hstate : s.state.worker.state = .constructed
  · obtain ⟨htask, hnone⟩ := h.fresh (.inl hstate)
    rw [hnone] at hspawned
    have hinit : t.state.worker = { s.state.worker with state := .initialized } := by
      rw [hworker, Worker.markInitialized, if_pos hstate]
    refine ⟨by simp [hinit], fun _ => ?_, fun _ hlistens => ?_, by simp [hinit], by simp [hinit]⟩
    · rw [hinit]
      exact ⟨htask, hspawned.of_nil⟩
    · rw [hlistening, hlistens, Bool.or_true]
  · rw [Worker.markInitialized, if_neg hstate] at hworker
    exact h.of_same hworker (fun hl => by rw [hlistening, hl, Bool.true_or]) hspawned

/-- A module that has been started. -/
theorem Fits.launched (h : Fits plan task s) (hstate : s.state.worker.state = .initialized)
    (hworker : t.state.worker = { s.state.worker with state := .running, task := some task })
    (hspawned : Fading (s.spawned ++ [⟨task, none⟩]) t.spawned) : Fits plan task t := by
  rw [(h.fresh (.inr hstate)).2, List.nil_append] at hspawned
  refine ⟨by simp [hworker], by simp [hworker], by simp [hworker], fun _ => ?_, by simp [hworker]⟩
  exact ⟨by simp [hworker], hspawned.of_single⟩

/-- A module that has been stopped, or whose task has been waited for. -/
theorem Fits.halted (h : Fits plan task s) (hs : Stops s t) : Fits plan task t := by
  have hstate : t.state.worker.state = .stopped := by
    rw [hs.worker]
    rfl
  have htask : t.state.worker.task = none := by
    rw [hs.worker]
    rfl
  have hspawned := hs.spawned
  have hended : t.spawned.length ≤ 1 ∧ ∀ x ∈ t.spawned, x.ended.isSome := by
    cases hbefore : s.state.worker.state with
    | constructed =>
        rw [(h.fresh (.inl hbefore)).2] at hspawned
        simp [hspawned.of_nil]
    | initialized =>
        rw [(h.fresh (.inr hbefore)).2] at hspawned
        simp [hspawned.of_nil]
    | running =>
        obtain ⟨hknown, e, hone⟩ := h.running hbefore
        rw [hone] at hspawned
        obtain ⟨e', hone'⟩ := hspawned.of_single
        have hover := hs.joined task hknown
        rw [hone']
        refine ⟨Nat.le_refl 1, fun x hx => hover x (hone' ▸ hx) ?_⟩
        rw [List.mem_singleton.1 hx]
    | aborting => exact absurd hbefore h.settled
    | stopped =>
        obtain ⟨_, hfew, hended⟩ := h.stopped hbefore
        rw [← hspawned.length_eq]
        exact ⟨hfew, hspawned.all_ended hended⟩
  exact ⟨by simp [hstate], by simp [hstate], by simp [hstate], by simp [hstate],
    fun _ => ⟨htask, hended⟩⟩

theorem Fits.way (h : Fits plan task s) (hway : Way plan task q s r t) : Fits plan task t := by
  cases q with
  | init =>
      cases hway with
      | ready _ hworker hlistening _ hspawned => exact h.ready hworker hlistening hspawned
      | failed _ since =>
          exact h.of_same since.worker (fun hl => since.listening.trans hl) since.spawned
  | start =>
      cases hway with
      | launched hready hworker _ _ hspawned => exact h.launched hready hworker hspawned
      | refused _ since => exact h.after since.around
  | abort => exact h.halted hway
  | wait => exact h.halted hway

theorem Stands.way (h : Stands past s.state.worker.state) (hway : Way plan task q s r t) :
    Stands (past ++ [⟨q, r, s, t⟩]) t.state.worker.state := by
  cases q with
  | init =>
      have hlaunch : ¬(⟨.init, r, s, t⟩ : Called (ModuleWatch δ)).Launches := by
        simp [Called.Launches]
      have hhalts : ¬(⟨.init, r, s, t⟩ : Called (ModuleWatch δ)).Halts := by
        simp [Called.Halts]
      cases hway with
      | ready _ hworker _ _ _ =>
          rw [hworker, Worker.markInitialized]
          split
          · rename_i hstate
            rw [hstate] at h
            refine ⟨⟨_, List.mem_concat_self, rfl, rfl⟩, fun d hd => ?_⟩
            rcases List.mem_append.1 hd with hd | hd
            · exact (h d hd).2
            · rw [List.mem_singleton.1 hd]
              exact ⟨hlaunch, hhalts⟩
          · rename_i hstate
            exact h.quiet (fun _ => hstate) hlaunch hhalts
      | failed _ since =>
          rw [since.worker]
          exact h.quiet (by simp [Called.Readies]) hlaunch hhalts
  | start =>
      have hready : ¬(⟨.start, r, s, t⟩ : Called (ModuleWatch δ)).Readies := by
        simp [Called.Readies]
      have hhalts : ¬(⟨.start, r, s, t⟩ : Called (ModuleWatch δ)).Halts := by
        simp [Called.Halts]
      cases hway with
      | launched hstate hworker _ _ _ =>
          rw [hstate] at h
          rw [hworker]
          refine ⟨⟨_, List.mem_concat_self, rfl, rfl⟩, fun d hd => ?_⟩
          rcases List.mem_append.1 hd with hd | hd
          · exact (h.2 d hd).2
          · rw [List.mem_singleton.1 hd]
            exact hhalts
      | refused _ since =>
          rw [since.worker]
          exact h.quiet (fun hr => absurd hr hready) (by simp [Called.Launches]) hhalts
  | abort =>
      rw [hway.worker]
      exact ⟨_, List.mem_concat_self, .inl rfl⟩
  | wait =>
      rw [hway.worker]
      exact ⟨_, List.mem_concat_self, .inr rfl⟩

/-! ## What every step preserves -/

/-- A call that is over has found things fit together, and has gone one of its ways. -/
structure Recorded (plan : Plan δ) (task : Nat) (before : List (Called (ModuleWatch δ)))
    (c : Called (ModuleWatch δ)) : Prop where
  fits : Fits plan task c.begun
  stands : Stands before c.begun.state.worker.state
  way : Way plan task c.request c.begun c.result c.ended

theorem Recorded.stops {c : Called (ModuleWatch δ)} (h : Recorded plan task past c)
    (hq : c.Halts) : Stops c.begun c.ended := by
  obtain ⟨q, r, s, t⟩ := c
  have hway := h.way
  rcases hq with hq | hq
  · obtain rfl : q = .abort := hq
    exact hway
  · obtain rfl : q = .wait := hq
    exact hway

theorem Recorded.halted {c : Called (ModuleWatch δ)} (h : Recorded plan task past c)
    (hq : c.Halts) :
    c.ended.state.worker.state = .stopped ∧ ∀ x ∈ c.ended.spawned, x.ended.isSome := by
  have hstops := h.stops hq
  have hstate : c.ended.state.worker.state = .stopped := by
    rw [hstops.worker]
    rfl
  exact ⟨hstate, ((h.fits.halted hstops).stopped hstate).2.2⟩

/-- What holds of a module in use. -/
structure Sound (plan : Plan δ) (task : Nat) (u : Usage (ModuleWatch δ)) : Prop where
  journal : ∀ before c after, u.past = before ++ c :: after → Recorded plan task before c
  idle : u.pending = none → Fits plan task u.scene ∧ Stands u.past u.scene.state.worker.state
  busy : ∀ c, u.pending = some c →
    Fits plan task c.begun ∧ Stands u.past c.begun.state.worker.state ∧
      c.rest.Assured Around (Forward c.request) (fun r t => Way plan task c.request c.begun r t)
        u.scene
  few : u.scene.spawned.length ≤ 1
  aborting : u.scene.state.worker.state = .aborting → ∃ c, u.pending = some c ∧ c.request = .abort
  halted : (∃ c ∈ u.past, c.Halts) →
    u.scene.state.worker.state = .stopped ∧ ∀ x ∈ u.scene.spawned, x.ended.isSome

/-- Each call goes one of its ways. -/
theorem assured_call (hplain : plan.Plain) (hfits : Fits plan task s) (q : Request) :
    ((plan.toModule task).call q).Assured Around (Forward q)
      (fun r t => Way plan task q s r t) s := by
  cases q with
  | init => exact assured_init hplain task
  | start =>
      refine assured_start task fun hstate => ?_
      exact ⟨(hfits.fresh (.inr hstate)).2, hfits.listening hstate⟩
  | abort =>
      have habort : (plan.toModule task).abort = Worker.abort workerPart := by
        cases plan <;> rfl
      refine Routine.assured_do interference_around ?_
      rw [habort]
      have hstops := assured_abort fun hstate => (hfits.stopped hstate).1
      exact hstops.imp fun _ t ht u hu => ht.after hu
  | wait =>
      have hwait : (plan.toModule task).wait = Worker.wait workerPart := by
        cases plan <;> rfl
      refine Routine.assured_do interference_around ?_
      rw [hwait]
      exact (assured_wait rfl rfl rfl rfl (.refl _)).imp fun _ t ht u hu => ht.after hu

/-- A worker that has stopped stays so. -/
theorem stopped_of_rank {state state' : ModuleState} (h : state = .stopped)
    (hrank : state.rank ≤ state'.rank) : state' = .stopped := by
  subst h
  cases state' with
  | stopped => rfl
  | constructed | initialized | running | aborting => exact absurd hrank (by decide)

namespace Sound

variable {u u' : Usage (ModuleWatch δ)}

theorem fresh (name : String) (d : δ) :
    Sound plan task (unused name d) where
  journal := by simp [unused]
  idle _ := by
    refine ⟨⟨?_, ?_, ?_, ?_, ?_⟩, ?_⟩ <;> simp [unused, Stands]
  busy := by simp [unused]
  few := by simp [unused]
  aborting := by simp [unused]
  halted := by simp [unused]

theorem call (h : Sound plan task u) (hplain : plan.Plain) (hidle : u.pending = none)
    (q : Request) :
    Sound plan task { u with pending := some ⟨q, u.scene, (plan.toModule task).call q⟩ } where
  journal := h.journal
  idle := by simp
  busy := by
    intro c hc
    obtain ⟨hfits, hstands⟩ := h.idle hidle
    obtain rfl := Option.some.inj hc
    exact ⟨hfits, hstands, assured_call hplain hfits q⟩
  few := h.few
  aborting := by
    intro hstate
    obtain ⟨c, hc, _⟩ := h.aborting hstate
    rw [hidle] at hc
    cases hc
  halted := h.halted

theorem outside (h : Sound plan task u) (ha : Around u.scene t) :
    Sound plan task { u with scene := t } where
  journal := h.journal
  idle := by
    intro hidle
    obtain ⟨hfits, hstands⟩ := h.idle hidle
    exact ⟨hfits.after ha, ha.state.worker ▸ hstands⟩
  busy := by
    intro c hc
    obtain ⟨hfits, hstands, hrest⟩ := h.busy c hc
    exact ⟨hfits, hstands, hrest.after interference_around ha⟩
  few := by
    rw [← ha.spawned.length_eq]
    exact h.few
  aborting hstate := h.aborting (ha.state.worker ▸ hstate)
  halted := by
    intro hpast
    obtain ⟨hstate, hended⟩ := h.halted hpast
    exact ⟨ha.state.worker ▸ hstate, ha.spawned.all_ended hended⟩

/-- What a step of a call that goes on does to the scene. -/
theorem go (h : Sound plan task u) {c : Calling (ModuleWatch δ)}
    {rest : Routine (ModuleWatch δ) (Outcome Unit)} (hc : u.pending = some c)
    (hgo : c.rest.Goes u.scene rest t) :
    Sound plan task { u with scene := t, pending := some { c with rest } } := by
  obtain ⟨hfits, hstands, hrest⟩ := h.busy c hc
  obtain ⟨hnext, hstep⟩ := hgo.assured interference_around hrest
  have hforward : Forward c.request u.scene t := by
    rcases hstep with rfl | hstep
    · exact forward_refl u.scene
    · exact hstep
  refine ⟨h.journal, by simp, ?_, ?_, ?_, ?_⟩
  · intro d hd
    obtain rfl := Option.some.inj hd
    exact ⟨hfits, hstands, hnext⟩
  · rcases hforward.spawned with hsame | ⟨_, _, i, hone⟩
    · show t.spawned.length ≤ 1
      rw [hsame]
      exact h.few
    · show t.spawned.length ≤ 1
      simp [hone]
  · intro hstate
    refine ⟨_, rfl, ?_⟩
    rcases hforward.aborting hstate with hbefore | habort
    · obtain ⟨d, hd, habort⟩ := h.aborting hbefore
      rw [hc] at hd
      obtain rfl := Option.some.inj hd
      exact habort
    · exact habort
  · intro hpast
    obtain ⟨hstate, hended⟩ := h.halted hpast
    refine ⟨stopped_of_rank hstate hforward.rank, ?_⟩
    rcases hforward.spawned with hsame | ⟨hinit, _⟩
    · show ∀ x ∈ t.spawned, _
      rw [hsame]
      exact hended
    · rw [hstate] at hinit
      cases hinit

theorem finish (h : Sound plan task u) {c : Calling (ModuleWatch δ)} {r : Outcome Unit}
    (hc : u.pending = some c) (hended : c.rest = .done r) :
    Sound plan task
      { u with past := u.past ++ [⟨c.request, r, c.begun, u.scene⟩], pending := none } := by
  obtain ⟨hfits, hstands, hrest⟩ := h.busy c hc
  have hway : Way plan task c.request c.begun r u.scene := by
    rw [hended] at hrest
    exact hrest u.scene (interference_around.refl _)
  have hfits' := hfits.way hway
  refine ⟨?_, fun _ => ⟨hfits', hstands.way hway⟩, by simp, h.few, ?_, ?_⟩
  · intro before d after heq
    rcases List.eq_nil_or_concat after with rfl | ⟨after', e, rfl⟩
    · obtain ⟨rfl, hd⟩ := List.append_inj' heq rfl
      cases hd
      exact ⟨hfits, hstands, hway⟩
    · have hsplit : u.past ++ [⟨c.request, r, c.begun, u.scene⟩] =
          (before ++ d :: after') ++ [e] := by simpa using heq
      exact h.journal before d after' (List.append_inj' hsplit rfl).1
  · intro hstate
    exact absurd hstate hfits'.settled
  · rintro ⟨d, hd, hhalts⟩
    rcases List.mem_append.1 hd with hd | hd
    · exact h.halted ⟨d, hd, hhalts⟩
    · rw [List.mem_singleton.1 hd] at hhalts
      exact (Recorded.mk hfits hstands hway).halted hhalts

theorem step (h : Sound plan task u) (hplain : plan.Plain)
    (hstep : Usage.Step (plan.toModule task) Around u u') : Sound plan task u' := by
  cases hstep with
  | call hidle q => exact h.call hplain hidle q
  | outside ha => exact h.outside ha
  | go hc hgo => exact h.go hc hgo
  | finish hc hended => exact h.finish hc hended

end Sound

/-! ## The life of a module -/

variable {name : String} {d : δ} {u u' : Usage (ModuleWatch δ)}

theorem sound_of_reach (hplain : plan.Plain) (h : Sound plan task u)
    (hreach : Usage.Reach (plan.toModule task) Around u u') : Sound plan task u' := by
  induction hreach with
  | refl => exact h
  | tail _ hstep ih => exact ih.step hplain hstep

/-- The state of the worker goes forward in every step. -/
theorem rank_le_of_step (h : Sound plan task u)
    (hstep : Usage.Step (plan.toModule task) Around u u') :
    u.scene.state.worker.state.rank ≤ u'.scene.state.worker.state.rank := by
  cases hstep with
  | call _ _ => exact Nat.le_refl _
  | outside ha => exact Nat.le_of_eq (by rw [ha.state.worker])
  | @go c rest s hc hgo =>
      obtain ⟨_, _, hrest⟩ := h.busy c hc
      rcases (hgo.assured interference_around hrest).2 with rfl | hforward
      · exact Nat.le_refl _
      · exact hforward.rank
  | finish _ _ => exact Nat.le_refl _

theorem rank_le_of_reach (hplain : plan.Plain) (h : Sound plan task u)
    (hreach : Usage.Reach (plan.toModule task) Around u u') :
    u.scene.state.worker.state.rank ≤ u'.scene.state.worker.state.rank := by
  induction hreach with
  | refl => exact Nat.le_refl _
  | tail hbefore hstep ih =>
      exact Nat.le_trans ih (rank_le_of_step (sound_of_reach hplain h hbefore) hstep)

/-- What an initialization that is over has done: its steps in their order, up to the first that has
failed. The device has not been asked if the sink could not be made ready. A failed one has changed
nothing else, so that the next one finds what it has found. -/
structure InitDone (plan : Plan δ) (c : Called (ModuleWatch δ)) : Prop where
  attempt : ∃ news, Attempt (plan.steps c.begun.state.listening) news c.result ∧
    c.ended.state.deeds = c.begun.state.deeds ++ news ∧
    ∀ f, .answered .prepare (.error f) ∈ news → .asked .meet ∉ news
  ready : c.result = .ok () → c.ended.state.worker = c.begun.state.worker.markInitialized
  failed : c.result ≠ .ok () → c.ended.state.worker = c.begun.state.worker ∧
    c.ended.state.listening = c.begun.state.listening

/-- What a start that is over has done, behind the calls before it. It has succeeded exactly if an
initialization has and no start, no stop and no wait has come before it. A refused one has changed
nothing and launched nothing. -/
structure StartDone (task : Nat) (before : List (Called (ModuleWatch δ)))
    (c : Called (ModuleWatch δ)) : Prop where
  ok_iff : c.result = .ok () ↔
    (∃ i ∈ before, i.Readies) ∧ ∀ e ∈ before, ¬e.Launches ∧ ¬e.Halts
  launched : c.result = .ok () → c.begun.spawned = [] ∧ ∃ e, c.ended.spawned = [⟨task, e⟩]
  refused : c.result ≠ .ok () → c.ended.state.worker = c.begun.state.worker ∧
    c.ended.state.listening = c.begun.state.listening ∧ Fading c.begun.spawned c.ended.spawned

theorem Recorded.init {c : Called (ModuleWatch δ)} (h : Recorded plan task past c)
    (hq : c.request = .init) : InitDone plan c := by
  obtain ⟨q, r, s, t⟩ := c
  obtain rfl : q = .init := hq
  have hway : Inits plan s t r := h.way
  cases hway with
  | ready attempt worker listening deeds spawned =>
      exact ⟨⟨_, attempt, deeds, fun f => attempt.unmet⟩, fun _ => worker,
        fun hne => absurd rfl hne⟩
  | failed attempt since =>
      refine ⟨⟨_, attempt, since.deeds, fun f => attempt.unmet⟩, fun hok => ?_, fun _ => ?_⟩
      · cases hok
      · exact ⟨since.worker, since.listening⟩

theorem Recorded.start {c : Called (ModuleWatch δ)} (h : Recorded plan task past c)
    (hq : c.request = .start) : StartDone task past c := by
  obtain ⟨q, r, s, t⟩ := c
  obtain rfl : q = .start := hq
  have hway : Starts plan task s t r := h.way
  have hiff := h.stands.initialized_iff
  cases hway with
  | launched ready worker listening deeds spawned =>
      have hfirst : s.spawned = [] := (h.fits.fresh (.inr ready)).2
      rw [hfirst, List.nil_append] at spawned
      exact ⟨⟨fun _ => hiff.1 ready, fun _ => rfl⟩, fun _ => ⟨hfirst, spawned.of_single⟩,
        fun hne => absurd rfl hne⟩
  | refused unready since =>
      refine ⟨⟨fun hok => ?_, fun hcalls => absurd (hiff.2 hcalls) unready⟩, fun hok => ?_,
        fun _ => ⟨since.worker, since.listening, since.spawned⟩⟩
      · cases hok
      · cases hok

/-- The life of a module of any kind, whatever is asked of it in whatever order, and whatever its
devices, its task and others do. The state of its worker never goes back; it is about to stop only
while a stop is going on; the worker knows a task, between two calls, exactly while it runs, and no
second task is ever launched. Behind a stop or a wait the module has stopped for good and its task
is over. -/
theorem calls_of_usage (hplain : plan.Plain)
    (h : Usage.Reach (plan.toModule task) Around (unused name d) u) :
    (∀ u', Usage.Reach (plan.toModule task) Around u u' →
      u.scene.state.worker.state.rank ≤ u'.scene.state.worker.state.rank) ∧
    (u.scene.state.worker.state = .aborting → ∃ c, u.pending = some c ∧ c.request = .abort) ∧
    (u.pending = none →
      (u.scene.state.worker.task.isSome ↔ u.scene.state.worker.state = .running)) ∧
    u.scene.spawned.length ≤ 1 ∧
    ((∃ c ∈ u.past, c.Halts) →
      u.scene.state.worker.state = .stopped ∧ ∀ x ∈ u.scene.spawned, x.ended.isSome) ∧
    ∀ before c after, u.past = before ++ c :: after →
      (c.request = .init → InitDone plan c) ∧
      (c.request = .start → StartDone task before c) ∧
      (c.Halts →
        c.ended.state.worker.state = .stopped ∧ ∀ x ∈ c.ended.spawned, x.ended.isSome) := by
  have hs := sound_of_reach hplain (Sound.fresh name d) h
  refine ⟨fun u' hreach => rank_le_of_reach hplain hs hreach, hs.aborting, fun hidle => ?_, hs.few,
    hs.halted, fun before c after heq => ?_⟩
  · exact (hs.idle hidle).1.task_iff
  · have hrecorded := hs.journal before c after heq
    exact ⟨hrecorded.init, hrecorded.start, hrecorded.halted⟩

/-- Things are asked of a module, then its task does something by itself, and then more is asked. -/
def between (m : Module (ModuleWatch δ)) (e : Ending) (asked later : List Request)
    (p : Routine (ModuleWatch δ) Unit) (u : Usage (ModuleWatch δ)) : Usage (ModuleWatch δ) :=
  let served := asked.foldl (Usage.after m e) u
  later.foldl (Usage.after m e)
    { served with scene := served.scene.change fun w => (p.alone 0 w).2.2 }

theorem reach_between {m : Module (ModuleWatch δ)} {p : Routine (ModuleWatch δ) Unit}
    (hp : p.Keeps Spares) (e : Ending) (asked later : List Request) {u : Usage (ModuleWatch δ)}
    (hidle : u.pending = none) : Usage.Reach m Around u (between m e asked later p u) := by
  have hend : ∀ s : Scene (ModuleWatch δ), Around s (s.endAll e) :=
    fun s => ⟨.refl _, s.fading_endAll e⟩
  have hasked : Usage.Reach m Around u (asked.foldl (Usage.after m e) u) :=
    Usage.reach_foldl hend asked hidle
  have hserved := hasked.tail (.outside (around_alone hp 0 _))
  exact hserved.trans (Usage.reach_foldl hend later ((Usage.pending_foldl asked u).trans hidle))

/-- A device that follows a script: the next word of it says whether all goes well, and behind its
end all does. -/
def scriptedAnswer : Routine (List Bool) (Outcome Unit) :=
  .changeTelling List.tail fun script =>
    if script.headD true then .ok () else .error (.timeout "station")

/-- A sink that follows a script. -/
def scriptedSink {ρ : Type} : Sink (List Bool) ρ := ⟨scriptedAnswer, fun _ => scriptedAnswer⟩

/-- A receiver whose sink and listener follow a script. -/
def scripted : Plan (List Bool) :=
  .receiver { name := "weather" } scriptedSink fun _ => scriptedAnswer

/-- The answer of this receiver to an upload without any parameters. -/
def emptyUpload : Routine (ModuleWatch (List Bool)) Unit := do
  let _ ← (receiver { name := "weather" } scriptedSink (fun _ => scriptedAnswer) 0).answer ""

/-- A poller whose device and sink follow a script. -/
def scriptedPoller : Plan (List Bool) :=
  .poller ⟨"meter", scriptedAnswer, scriptedAnswer⟩ scriptedSink (fun _ => .ok .null)
    (.ofMillis 1000)

/-- The listener of a receiver cannot be opened at first. The receiver is started, made ready once
more while it runs, and not started again. Its task rejects an upload and ends by a panic, and a
wait returns; nothing that is asked of it then starts it. A poller is stopped behind one of its
rounds. -/
theorem calls_of_usage_panic :
    (scripted.Plain ∧ ∃ u : Usage (ModuleWatch (List Bool)),
      Usage.Reach (scripted.toModule 0) Around (unused "weather" [true, false]) u ∧
      u.calls =
        [(.init, false), (.start, false), (.init, true), (.start, true), (.init, true),
          (.start, false), (.wait, true), (.abort, true), (.init, true), (.start, false)] ∧
      u.scene.spawned = [⟨0, some .panic⟩] ∧ u.scene.state.listening = true ∧
      u.scene.state.worker.state = .stopped ∧
      u.scene.state.metrics.queryCount "weather" "failure" = 1) ∧
    scriptedPoller.Plain ∧ ∃ u : Usage (ModuleWatch (List Bool)),
      Usage.Reach (scriptedPoller.toModule 0) Around (unused "meter" []) u ∧
      u.calls = [(.init, true), (.start, true), (.abort, true), (.start, false)] ∧
      u.scene.spawned = [⟨0, some .normal⟩] ∧
      u.scene.state.cache.get? "meter" = some (Json.bytes .null) ∧
      u.scene.state.worker.state = .stopped := by
  constructor
  · have hplain : scripted.Plain := ⟨fun _ => trivial, fun _ => trivial⟩
    have hupload : emptyUpload.Keeps Spares :=
      Routine.keeps_do (keeps_answer _ _ _ _ _) fun _ => Routine.keeps_pure _
    let u := between (scripted.toModule 0) .panic [.init, .start, .init, .start]
      [.init, .start, .wait, .abort, .init, .start] emptyUpload (unused "weather" [true, false])
    have hcalls : u.calls =
        [(.init, false), (.start, false), (.init, true), (.start, true), (.init, true),
          (.start, false), (.wait, true), (.abort, true), (.init, true), (.start, false)] := by
      decide +kernel
    have hreach : Usage.Reach (scripted.toModule 0) Around (unused "weather" [true, false]) u :=
      reach_between hupload .panic _ _ rfl
    obtain ⟨c, hc, hwait⟩ := Usage.exists_of_calls hcalls (q := .wait) (by decide)
    obtain ⟨_, _, _, _, hover, _⟩ := calls_of_usage hplain hreach
    exact ⟨hplain, u, hreach, hcalls, by decide +kernel, by decide +kernel,
      (hover ⟨c, hc, .inr hwait⟩).1, by decide +kernel⟩
  · have hplain : scriptedPoller.Plain := ⟨fun _ => trivial, fun _ => trivial⟩
    let u := between (scriptedPoller.toModule 0) .normal [.init, .start] [.abort, .start]
      (scriptedPoller.toModule 0).body.round (unused "meter" [])
    have hcalls : u.calls = [(.init, true), (.start, true), (.abort, true), (.start, false)] := by
      decide +kernel
    have hreach : Usage.Reach (scriptedPoller.toModule 0) Around (unused "meter" []) u :=
      reach_between (keeps_round scriptedPoller 0) .normal _ _ rfl
    obtain ⟨c, hc, habort⟩ := Usage.exists_of_calls hcalls (q := .abort) (by decide)
    obtain ⟨_, _, _, _, hover, _⟩ := calls_of_usage hplain hreach
    exact ⟨hplain, u, hreach, hcalls, by decide +kernel, by decide +kernel,
      (hover ⟨c, hc, .inl habort⟩).1⟩

end ModuleWatch

end HomeEnergy
