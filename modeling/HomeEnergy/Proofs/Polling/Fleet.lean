import HomeEnergy.Proofs.Polling.Watch
import HomeEnergy.Proofs.Routine.Minds
import Mathlib.Logic.Function.Basic

/-!
# Many pollers on one cache

A fleet is any number of pollers with pairwise different names that share one cache and one set of
metrics. Each has a device and a sink of its own. They go through their cycles step by step, and any
step of one may come between two steps of another: a step of a query, the count of a query, the
update of the cache, a step of the sink. Even cycles of one poller may go on at the same time.

What a poller does in one step is decided by what it has for itself and by its own entry in the
cache, and what it leaves in the cache and the metrics is its own entry and its own counts. So the
steps of two pollers can be taken in either order, and every step of the others can be left out.

## Main results

* `PollerWatch.minds_cycle` — a cycle minds its own business.
* `Fleet.touch_of_move` — what one move does, in all states that agree about the one who makes it.
* `Fleet.move_comm` — two moves in either order.
* `Fleet.agree_of_history` — what a poller does and finds depends on its own moves only.
* `Fleet.run_eq_of_histories` — two ways in which the same moves may fall between each other.
-/

namespace HomeEnergy

namespace PollerWatch

variable {δ ρ : Type}

/-- Two states are alike for the module with a name. -/
structure Alike (name : String) (w v : PollerWatch δ ρ) : Prop where
  worker : v.worker = w.worker
  device : v.device = w.device
  deeds : v.deeds = w.deeds
  entry : v.cache.get? name = w.cache.get? name

/-- What the module with a name may do to the cache and the metrics at one instant. -/
inductive Touch (name : String) : (Cache → Cache) → (Metrics → Metrics) → Prop where
  | nothing : Touch name id id
  | puts (payload : ByteArray) : Touch name (·.put name payload) id
  | counts (r : QueryResult) : Touch name id (·.countQuery name r)

/-- What the module with a name may do at one instant. -/
def Works (name : String) (work : PollerWatch δ ρ → PollerWatch δ ρ) : Prop :=
  ∃ onCache onMetrics, Touch name onCache onMetrics ∧
    ∃ (onDevice : δ → δ) (onDeeds : List (PollDeed ρ) → List (PollDeed ρ)),
      ∀ w, work w = {
        w with
        cache := onCache w.cache
        metrics := onMetrics w.metrics
        device := onDevice w.device
        deeds := onDeeds w.deeds }

namespace Touch

variable {name other : String} {onCache onCache' : Cache → Cache}
  {onMetrics onMetrics' : Metrics → Metrics}

/-- The entries of others stay. -/
theorem get?_other (h : Touch name onCache onMetrics) (hne : other ≠ name) (c : Cache) :
    (onCache c).get? other = c.get? other := by
  cases h with
  | nothing => rfl
  | puts payload => rw [Cache.get?_put, if_neg hne]
  | counts r => rfl

/-- The counts of others stay. -/
theorem queryCount_other (h : Touch name onCache onMetrics) (hne : other ≠ name) (m : Metrics)
    (r : String) : (onMetrics m).queryCount other r = m.queryCount other r := by
  cases h with
  | nothing => rfl
  | puts payload => rfl
  | counts u => rw [Metrics.queryCount_countQuery, if_neg (fun hit => hne hit.2), Nat.add_zero]

/-- The module's own entry depends on its own entry only. -/
theorem get?_own (h : Touch name onCache onMetrics) {c d : Cache}
    (hentry : d.get? name = c.get? name) :
    (onCache d).get? name = (onCache c).get? name := by
  cases h with
  | nothing => exact hentry
  | puts payload => rw [Cache.get?_put, Cache.get?_put, if_pos rfl, if_pos rfl]
  | counts r => exact hentry

/-- The module's own counts depend on its own counts only. -/
theorem queryCount_own (h : Touch name onCache onMetrics) {m n : Metrics} {r : String}
    (hcount : n.queryCount name r = m.queryCount name r) :
    (onMetrics n).queryCount name r = (onMetrics m).queryCount name r := by
  cases h with
  | nothing => exact hcount
  | puts payload => exact hcount
  | counts u => rw [Metrics.queryCount_countQuery, Metrics.queryCount_countQuery, hcount]

/-- Here the names matter: of two entries under one name, the later one would stay. -/
theorem cache_comm (h : Touch name onCache onMetrics) (h' : Touch other onCache' onMetrics')
    (hne : name ≠ other) (c : Cache) : onCache' (onCache c) = onCache (onCache' c) := by
  cases h with
  | nothing => rfl
  | counts r => rfl
  | puts payload =>
      cases h' with
      | nothing => rfl
      | counts r => rfl
      | puts payload' => exact Cache.put_comm c hne payload payload'

theorem metrics_comm (h : Touch name onCache onMetrics) (h' : Touch other onCache' onMetrics')
    (m : Metrics) : onMetrics' (onMetrics m) = onMetrics (onMetrics' m) := by
  cases h with
  | nothing => rfl
  | puts payload => rfl
  | counts r =>
      cases h' with
      | nothing => rfl
      | puts payload => rfl
      | counts r' => exact Metrics.countQuery_comm m name other r r'

end Touch

/-! ## One cycle -/

variable {name : String}

theorem works_id : Works name (id : PollerWatch δ ρ → PollerWatch δ ρ) :=
  ⟨id, id, .nothing, id, id, fun _ => rfl⟩

theorem works_note (d : PollDeed ρ) : Works name (note d : PollerWatch δ ρ → PollerWatch δ ρ) :=
  ⟨id, id, .nothing, id, (· ++ [d]), fun _ => rfl⟩

/-- The device and the sink are the module's own. -/
theorem minds_device {α : Type} (p : Routine δ α) :
    (p.within (devicePart (ρ := ρ))).Minds (Alike name) (Works name) :=
  Routine.minds_within (fun _ _ h => h.device)
    (fun f => ⟨id, id, .nothing, f, id, fun _ => rfl⟩) p

theorem minds_note (d : PollDeed ρ) :
    (Routine.change (note d : PollerWatch δ ρ → PollerWatch δ ρ)).Minds
      (Alike name) (Works name) :=
  Routine.minds_change fun _ => ⟨note d, works_note d, fun _ _ => rfl⟩

theorem minds_query (s : Source δ ρ) :
    (source s).query.Minds (Alike name) (Works name) := by
  refine Routine.minds_do (minds_device s.query) fun answer => ?_
  exact Routine.minds_do (minds_note (.queried answer)) fun _ => Routine.minds_pure answer

/-- The record is handed on with the module's own entry, which is the same in states that are
alike. -/
theorem minds_write (k : Sink δ ρ) (x : ρ) :
    ((sink name k).write x).Minds (Alike name) (Works name) := by
  refine Routine.minds_do (Routine.minds_change fun w => ?_) fun _ => ?_
  · refine ⟨note (.handed x (w.cache.get? name)), works_note _, fun v h => ?_⟩
    rw [h.entry]
  · refine Routine.minds_do (minds_device (k.write x)) fun answer => ?_
    exact Routine.minds_do (minds_note (.answered answer)) fun _ => Routine.minds_pure answer

theorem minds_count (r : QueryResult) :
    ((ledger (δ := δ) (ρ := ρ)).count name r).Minds (Alike name) (Works name) :=
  Routine.minds_change fun _ =>
    ⟨_, ⟨id, (·.countQuery name r), .counts r, id, id, fun _ => rfl⟩, fun _ _ => rfl⟩

theorem minds_store (document : Outcome Document) :
    ((ledger (δ := δ) (ρ := ρ)).store name document).Minds (Alike name) (Works name) := by
  cases document with
  | error f => exact Routine.minds_pure _
  | ok d =>
      refine Routine.minds_do (Routine.minds_change fun _ => ?_) fun _ => Routine.minds_pure _
      exact ⟨_, ⟨(·.put name (Json.bytes d)), id, .puts (Json.bytes d), id, id, fun _ => rfl⟩,
        fun _ _ => rfl⟩

/-- A cycle minds its own business, whatever the device and the sink do. -/
theorem minds_cycle (s : Source δ ρ) (k : Sink δ ρ) (write : ρ → Outcome Document)
    (interval : Span) (task : Nat) :
    (poller s k write interval task).cycle.Minds (Alike s.name) (Works s.name) := by
  refine Routine.minds_do (minds_query s) fun answer => ?_
  cases answer with
  | error f => exact Routine.minds_do (minds_count .failure) fun _ => Routine.minds_pure _
  | ok x =>
      refine Routine.minds_do (minds_count .success) fun _ => ?_
      refine Routine.minds_do (minds_store (write x)) fun outcome => ?_
      cases outcome with
      | error f => exact Routine.minds_pure _
      | ok _ => exact minds_write k x

end PollerWatch

/-! ## Fleets -/

/-- A polling module of a fleet. -/
structure Member (δ ρ : Type) where
  source : Source δ ρ
  sink : Sink δ ρ
  write : ρ → Outcome Document
  interval : Span
  task : Nat

/-- Any number of polling modules with pairwise different names. -/
structure Fleet (ι : Type) (δ ρ : ι → Type) where
  member : ∀ j, Member (δ j) (ρ j)
  distinct : ∀ {j k}, j ≠ k → (member j).source.name ≠ (member k).source.name

/-- What a module has for itself. -/
structure Desk (δ ρ : Type) where
  worker : Worker
  device : δ
  deeds : List (PollDeed ρ) := []
  /-- Its cycles, in the order in which they began, as far as they are still to come. -/
  calls : List (Routine (PollerWatch δ ρ) (Outcome Unit)) := []

/-- What a fleet works on: all that its modules share, and what each of them has for itself. -/
structure Floor {ι : Type} (δ ρ : ι → Type) where
  cache : Cache
  metrics : Metrics
  desks : ∀ j, Desk (δ j) (ρ j)

/-- What may happen at one instant about a module with a device. -/
inductive PollMove (δ : Type) where
  /-- A cycle begins, because it is asked for or on a tick. -/
  | begins
  /-- One of its cycles goes one step on, and finds this on the clock. -/
  | goes (call clock : Nat)
  /-- Something changes the device or the sink from outside. -/
  | changes (f : δ → δ)

/-- Whether a cycle begins. -/
def PollMove.isBegin {δ : Type} : PollMove δ → Bool
  | begins => true
  | _ => false

/-- A move of one of the modules. -/
abbrev FleetMove {ι : Type} (δ : ι → Type) := (j : ι) × PollMove (δ j)

namespace Member

variable {δ ρ : Type}

/-- The module under watch. -/
def poller (p : Member δ ρ) : Poller (PollerWatch δ ρ) ρ :=
  PollerWatch.poller p.source p.sink p.write p.interval p.task

/-- A move of the module, with all that it works on, and its cycles. -/
def move (p : Member δ ρ) (w : PollerWatch δ ρ)
    (calls : List (Routine (PollerWatch δ ρ) (Outcome Unit))) :
    PollMove δ → PollerWatch δ ρ × List (Routine (PollerWatch δ ρ) (Outcome Unit))
  | .begins => (w, calls ++ [p.poller.cycle])
  | .goes i n =>
    match calls[i]? with
    | some q => ((q.advance n w).2, calls.set i (q.advance n w).1)
    | none => (w, calls)
  | .changes f => ({ w with device := f w.device }, calls)

/-- All cycles of the module mind its business. -/
def Sound (p : Member δ ρ) (calls : List (Routine (PollerWatch δ ρ) (Outcome Unit))) : Prop :=
  ∀ q ∈ calls, q.Minds (PollerWatch.Alike p.source.name) (PollerWatch.Works p.source.name)

/-- A move is one work, in all states that are alike. -/
theorem works_of_move (p : Member δ ρ) {calls : List (Routine (PollerWatch δ ρ) (Outcome Unit))}
    (h : p.Sound calls) (w : PollerWatch δ ρ) (m : PollMove δ) :
    p.Sound (p.move w calls m).2 ∧ ∃ work, PollerWatch.Works p.source.name work ∧
      ∀ v, PollerWatch.Alike p.source.name w v →
        p.move v calls m = (work v, (p.move w calls m).2) := by
  cases m with
  | begins =>
      refine ⟨fun q hq => ?_, id, PollerWatch.works_id, fun _ _ => rfl⟩
      rcases List.mem_append.1 hq with hq | hq
      · exact h q hq
      · rw [List.mem_singleton.1 hq]
        exact PollerWatch.minds_cycle p.source p.sink p.write p.interval p.task
  | goes i n =>
      cases hi : calls[i]? with
      | none => simpa only [move, hi] using ⟨h, id, PollerWatch.works_id, fun _ _ => rfl⟩
      | some q =>
          obtain ⟨hleft, work, hwork, hsame⟩ := Routine.minds_advance PollerWatch.works_id
            (h q (List.mem_of_getElem? hi)) n w
          simp only [move, hi]
          refine ⟨fun q' hq' => ?_, work, hwork, fun v hv => ?_⟩
          · rcases List.mem_or_eq_of_mem_set hq' with hq' | rfl
            · exact h q' hq'
            · exact hleft
          · rw [hsame v hv]
  | changes f =>
      exact ⟨h, _, ⟨id, id, .nothing, f, id, fun _ => rfl⟩, fun _ _ => rfl⟩

end Member

namespace Fleet

variable {ι : Type} {δ ρ : ι → Type}

/-- All that a module works on. -/
def view (x : Floor δ ρ) (j : ι) : PollerWatch (δ j) (ρ j) where
  cache := x.cache
  metrics := x.metrics
  worker := (x.desks j).worker
  device := (x.desks j).device
  deeds := (x.desks j).deeds

/-- The name of a module. -/
def name (F : Fleet ι δ ρ) (j : ι) : String := (F.member j).source.name

/-- Each cycle that is under way minds the business of its module. -/
def Sound (F : Fleet ι δ ρ) (x : Floor δ ρ) : Prop := ∀ j, (F.member j).Sound (x.desks j).calls

/-- For a module everything is the same: its device and its sink, what it has done, its cycles, its
entry in the cache and its counts. -/
structure Agree (F : Fleet ι δ ρ) (j : ι) (x y : Floor δ ρ) : Prop where
  desk : y.desks j = x.desks j
  entry : y.cache.get? (F.name j) = x.cache.get? (F.name j)
  counts : ∀ r, y.metrics.queryCount (F.name j) r = x.metrics.queryCount (F.name j) r

variable {F : Fleet ι δ ρ} {j k : ι} {x y : Floor δ ρ}

theorem sound_of_idle (h : ∀ j, (x.desks j).calls = []) : F.Sound x := by
  intro j q hq
  rw [h j] at hq
  exact absurd hq List.not_mem_nil

theorem Agree.refl (F : Fleet ι δ ρ) (j : ι) (x : Floor δ ρ) : F.Agree j x x :=
  ⟨rfl, rfl, fun _ => rfl⟩

theorem Agree.symm (h : F.Agree j x y) : F.Agree j y x :=
  ⟨h.desk.symm, h.entry.symm, fun r => (h.counts r).symm⟩

theorem Agree.trans {z : Floor δ ρ} (h : F.Agree j x y) (h' : F.Agree j y z) : F.Agree j x z :=
  ⟨h'.desk.trans h.desk, h'.entry.trans h.entry, fun r => (h'.counts r).trans (h.counts r)⟩

/-! ## One move -/

variable [DecidableEq ι]

/-- What a module leaves behind, put back into its place. -/
def settle (x : Floor δ ρ) (j : ι) (w : PollerWatch (δ j) (ρ j))
    (calls : List (Routine (PollerWatch (δ j) (ρ j)) (Outcome Unit))) : Floor δ ρ where
  cache := w.cache
  metrics := w.metrics
  desks := Function.update x.desks j
    { worker := w.worker, device := w.device, deeds := w.deeds, calls := calls }

/-- One move. -/
def move (F : Fleet ι δ ρ) (x : Floor δ ρ) (a : FleetMove δ) : Floor δ ρ :=
  let after := (F.member a.1).move (view x a.1) (x.desks a.1).calls a.2
  settle x a.1 after.1 after.2

/-- One move after the other, in any order. -/
def run (F : Fleet ι δ ρ) (x : Floor δ ρ) (as : List (FleetMove δ)) : Floor δ ρ :=
  as.foldl F.move x

/-- What one move does: it touches the cache and the metrics as the module may, and leaves the desk
of the module as the desk and the entry of the module say. -/
theorem touch_of_move (hx : F.Sound x) (j : ι) (m : PollMove (δ j)) :
    ∃ onCache onMetrics, PollerWatch.Touch (F.name j) onCache onMetrics ∧
      ∃ desk, (F.member j).Sound desk.calls ∧
        ∀ y, y.desks j = x.desks j → y.cache.get? (F.name j) = x.cache.get? (F.name j) →
          F.move y ⟨j, m⟩ = {
            cache := onCache y.cache
            metrics := onMetrics y.metrics
            desks := Function.update y.desks j desk } := by
  obtain ⟨hcalls, work, ⟨onCache, onMetrics, htouch, onDevice, onDeeds, hwork⟩, hsame⟩ :=
    (F.member j).works_of_move (hx j) (view x j) m
  refine ⟨onCache, onMetrics, htouch, {
    worker := (x.desks j).worker
    device := onDevice (x.desks j).device
    deeds := onDeeds (x.desks j).deeds
    calls := ((F.member j).move (view x j) (x.desks j).calls m).2 }, hcalls, ?_⟩
  intro y hdesk hentry
  have halike : PollerWatch.Alike (F.name j) (view x j) (view y j) :=
    ⟨congrArg Desk.worker hdesk, congrArg Desk.device hdesk, congrArg Desk.deeds hdesk, hentry⟩
  show settle y j ((F.member j).move (view y j) (y.desks j).calls m).1
    ((F.member j).move (view y j) (y.desks j).calls m).2 = _
  rw [hdesk, hsame _ halike, hwork]
  simp only [settle, view, hdesk]

theorem sound_move (hx : F.Sound x) (a : FleetMove δ) : F.Sound (F.move x a) := by
  obtain ⟨j, m⟩ := a
  obtain ⟨onCache, onMetrics, -, desk, hcalls, hmove⟩ := touch_of_move hx j m
  rw [hmove x rfl rfl]
  intro k
  by_cases hk : k = j
  · subst hk
    simpa only [Function.update_self] using hcalls
  · simpa only [Function.update_of_ne hk] using hx k

/-- A move of one module is nothing to another. -/
theorem agree_of_move_other (hx : F.Sound x) (hne : j ≠ k) (m : PollMove (δ k)) :
    F.Agree j x (F.move x ⟨k, m⟩) := by
  obtain ⟨onCache, onMetrics, htouch, desk, -, hmove⟩ := touch_of_move hx k m
  rw [hmove x rfl rfl]
  exact ⟨Function.update_of_ne hne desk x.desks, htouch.get?_other (F.distinct hne) x.cache,
    htouch.queryCount_other (F.distinct hne) x.metrics⟩

/-- A module makes the same move wherever everything is the same for it. -/
theorem Agree.move (h : F.Agree j x y) (hx : F.Sound x) (m : PollMove (δ j)) :
    F.Agree j (F.move x ⟨j, m⟩) (F.move y ⟨j, m⟩) := by
  obtain ⟨onCache, onMetrics, htouch, desk, -, hmove⟩ := touch_of_move hx j m
  rw [hmove x rfl rfl, hmove y h.desk h.entry]
  refine ⟨?_, htouch.get?_own h.entry, fun r => htouch.queryCount_own (h.counts r)⟩
  simp only [Function.update_self]

/-- Moves of two modules can be made in either order. -/
theorem move_comm (hx : F.Sound x) (hne : j ≠ k) (m : PollMove (δ j)) (n : PollMove (δ k)) :
    F.move (F.move x ⟨j, m⟩) ⟨k, n⟩ = F.move (F.move x ⟨k, n⟩) ⟨j, m⟩ := by
  have hk := agree_of_move_other hx hne.symm m
  have hj := agree_of_move_other hx hne n
  obtain ⟨onCache, onMetrics, htouch, desk, -, hmove⟩ := touch_of_move hx j m
  obtain ⟨onCache', onMetrics', htouch', desk', -, hmove'⟩ := touch_of_move hx k n
  rw [hmove' _ hk.desk hk.entry, hmove _ hj.desk hj.entry, hmove x rfl rfl, hmove' x rfl rfl]
  rw [htouch.cache_comm htouch' (F.distinct hne), htouch.metrics_comm htouch',
    Function.update_comm hne]

/-! ## Runs -/

/-- A move, if it is one of a certain module. -/
def moveOf? (j : ι) (a : FleetMove δ) : Option (PollMove (δ j)) :=
  if h : a.1 = j then some (h ▸ a.2) else none

/-- The moves of one module, in order. -/
def history (j : ι) (as : List (FleetMove δ)) : List (PollMove (δ j)) := as.filterMap (moveOf? j)

@[simp] theorem history_own (m : PollMove (δ j)) (as : List (FleetMove δ)) :
    history j (⟨j, m⟩ :: as) = m :: history j as := by
  simp [history, moveOf?]

@[simp] theorem history_other (hne : k ≠ j) (m : PollMove (δ k)) (as : List (FleetMove δ)) :
    history j (⟨k, m⟩ :: as) = history j as := by
  simp [history, moveOf?, hne]

theorem history_append (j : ι) (as bs : List (FleetMove δ)) :
    history j (as ++ bs) = history j as ++ history j bs := List.filterMap_append

/-- The moves of others do not belong to the history of a module. -/
theorem history_filter (j : ι) {keep : ι → Bool} (hkeep : keep j = true)
    (as : List (FleetMove δ)) : history j (as.filter fun a => keep a.1) = history j as := by
  induction as with
  | nil => rfl
  | cons a as ih =>
      obtain ⟨k, m⟩ := a
      by_cases hk : k = j
      · subst hk
        simp [hkeep, ih]
      · cases hkept : keep k with
        | true => simp [hkept, hk, ih]
        | false => simp [hkept, hk, ih]

/-- For a module everything is as if it had made its moves alone. -/
theorem agree_alone (hx : F.Sound x) (hy : F.Sound y) (h : F.Agree j x y)
    (as : List (FleetMove δ)) :
    F.Agree j (F.run x as) (F.run y ((history j as).map (Sigma.mk j))) := by
  induction as generalizing x y with
  | nil => exact h
  | cons a as ih =>
      obtain ⟨k, m⟩ := a
      by_cases hk : k = j
      · subst hk
        rw [history_own]
        exact ih (sound_move hx _) (sound_move hy _) (h.move hx m)
      · rw [history_other hk]
        have hother := agree_of_move_other hx (Ne.symm hk) m
        exact ih (sound_move hx _) hy (hother.symm.trans h)

/-- What a module does and finds depends on its own moves only. -/
theorem agree_of_history (hx : F.Sound x) {as bs : List (FleetMove δ)}
    (h : history j as = history j bs) : F.Agree j (F.run x as) (F.run x bs) := by
  have hleft := agree_alone hx hx (.refl F j x) as
  have hright := agree_alone hx hx (.refl F j x) bs
  rw [h] at hleft
  exact hleft.trans hright.symm

/-- A move can be made before moves of others. -/
theorem run_advance (hx : F.Sound x) {before : List (FleetMove δ)}
    (hbefore : ∀ a ∈ before, a.1 ≠ j) (m : PollMove (δ j)) :
    F.move (F.run x before) ⟨j, m⟩ = F.run (F.move x ⟨j, m⟩) before := by
  induction before generalizing x with
  | nil => rfl
  | cons a before ih =>
      obtain ⟨k, n⟩ := a
      have hk : j ≠ k := fun heq => hbefore ⟨k, n⟩ List.mem_cons_self heq.symm
      show F.move (F.run (F.move x ⟨k, n⟩) before) ⟨j, m⟩ =
        F.run (F.move (F.move x ⟨j, m⟩) ⟨k, n⟩) before
      rw [ih (sound_move hx _) fun b hb => hbefore b (List.mem_cons_of_mem _ hb),
        move_comm hx hk]

/-- The first move of a module, with the moves of others before it. -/
theorem split_of_history {m : PollMove (δ j)} {ms : List (PollMove (δ j))}
    {as : List (FleetMove δ)} (h : history j as = m :: ms) :
    ∃ before after, as = before ++ ⟨j, m⟩ :: after ∧ ∀ a ∈ before, a.1 ≠ j := by
  induction as with
  | nil => cases h
  | cons a as ih =>
      obtain ⟨k, n⟩ := a
      by_cases hk : k = j
      · subst hk
        rw [history_own] at h
        obtain ⟨rfl, -⟩ := List.cons.inj h
        exact ⟨[], as, rfl, fun _ hmem => absurd hmem List.not_mem_nil⟩
      · rw [history_other hk] at h
        obtain ⟨before, after, rfl, hbefore⟩ := ih h
        refine ⟨⟨k, n⟩ :: before, after, rfl, fun b hb => ?_⟩
        rcases List.mem_cons.1 hb with rfl | hb
        · exact hk
        · exact hbefore b hb

/-- The same moves of each module lead to the same end, however those of one fall between those of
the others. -/
theorem run_eq_of_histories (hx : F.Sound x) {as bs : List (FleetMove δ)}
    (h : ∀ j, history j as = history j bs) : F.run x as = F.run x bs := by
  induction as generalizing x bs with
  | nil =>
      cases bs with
      | nil => rfl
      | cons b bs =>
          obtain ⟨k, n⟩ := b
          have hk := h k
          rw [history_own] at hk
          cases hk
  | cons a as ih =>
      obtain ⟨j, m⟩ := a
      -- The first move is the first of its module in the other run as well, and can be put first.
      obtain ⟨before, after, rfl, hbefore⟩ := split_of_history
        ((h j).symm.trans (history_own m as))
      have hrest : ∀ k, history k as = history k (before ++ after) := by
        intro k
        have hk := h k
        rw [history_append] at hk ⊢
        by_cases hkj : j = k
        · subst hkj
          have hnone : history j before = [] := by
            rw [history, List.filterMap_eq_nil_iff]
            intro b hb
            exact dif_neg (hbefore b hb)
          rw [hnone, history_own, history_own] at hk
          rw [hnone]
          exact (List.cons.inj hk).2
        · rwa [history_other hkj, history_other hkj] at hk
      calc F.run x (⟨j, m⟩ :: as)
          = F.run (F.move x ⟨j, m⟩) (before ++ after) := ih (sound_move hx _) hrest
        _ = F.run (F.run (F.move x ⟨j, m⟩) before) after := List.foldl_append
        _ = F.run (F.move (F.run x before) ⟨j, m⟩) after := by rw [run_advance hx hbefore]
        _ = F.run x (before ++ ⟨j, m⟩ :: after) := by simp [run]

end Fleet

end HomeEnergy
