import HomeEnergy.Proofs.House.Watch
import HomeEnergy.Proofs.Worker.Stop

/-!
# The calls of the modules of a house

What it does to a house to make modules ready, to start and to stop them, one after the other, while
their tasks and others do what they like in between. Each call changes what one module knows of its
task; the calls of one kind, for any modules, are told as one change of all of them (`House.Comes`).

## Main results

* `House.assured_initAll` — each module is made ready once, in order, and those that were are told.
* `House.assured_startAll` — each task is launched, and counted.
* `House.assured_abortAll` — each task is over, and each module has stopped.
-/

namespace HomeEnergy

open Routine (Part Interference Law uses_do uses_pure uses_look uses_change
  bracketed_within)

variable {δ α β : Type}

namespace House

/-- What may happen around a call. -/
abbrev Around : Scene (House δ) → Scene (House δ) → Prop := Scene.Amid Spares

theorem interference_around : Interference (Around (δ := δ)) :=
  Scene.interference_amid interference_spares

/-- What holds at the end of a call, whatever happens around it. -/
abbrev Achieves (post : α → Scene (House δ) → Prop) (p : Routine (House δ) α)
    (s : Scene (House δ)) : Prop :=
  p.Assured Around (fun _ _ => True) post s

/-- What modules know of their tasks, when that of some of them has been changed. -/
def changed (f : Nat → Worker → Worker) (ks : List Nat) (workers : Nat → Worker) : Nat → Worker :=
  fun k => if k ∈ ks then f k (workers k) else workers k

theorem changed_nil (f : Nat → Worker → Worker) (workers : Nat → Worker) :
    changed f [] workers = workers := by
  funext k
  simp [changed]

theorem changed_changed (f : Nat → Worker → Worker) {ks ls : List Nat} (h : ks.Disjoint ls)
    (workers : Nat → Worker) :
    changed f ls (changed f ks workers) = changed f (ks ++ ls) workers := by
  funext k
  by_cases hk : k ∈ ks
  · have hl : k ∉ ls := fun hl => h hk hl
    simp [changed, hk, hl]
  · simp [changed, hk]

theorem update_eq_changed (f : Nat → Worker → Worker) (k : Nat) (workers : Nat → Worker) :
    Function.update workers k (f k (workers k)) = changed f [k] workers := by
  funext j
  by_cases hj : j = k
  · subst hj
    simp [changed]
  · simp [changed, hj]

/-- Since a scene initializations have been written down, some modules have changed what they know
of their tasks, and tasks have been launched. -/
structure Comes (f : Nat → Worker → Worker) (ks : List Nat) (news : List InitCall)
    (launched : List Nat) (s t : Scene (House δ)) : Prop where
  workers : t.state.workers = changed f ks s.state.workers
  inits : t.state.inits = s.state.inits ++ news
  spawned : Fading (s.spawned ++ launched.map fun k => ⟨k, none⟩) t.spawned

variable {f g : Nat → Worker → Worker} {k : Nat} {ks ls : List Nat} {news news' : List InitCall}
  {launched launched' : List Nat} {s t u : Scene (House δ)}

theorem Around.comes (h : Around s t) : Comes f [] [] [] s t where
  workers := by rw [h.state.workers, changed_nil]
  inits := by rw [h.state.inits, List.append_nil]
  spawned := by
    rw [List.map_nil, List.append_nil]
    exact h.spawned

theorem Comes.trans (h : Comes f ks news launched s t) (h' : Comes f ls news' launched' t u)
    (hdisjoint : ks.Disjoint ls) :
    Comes f (ks ++ ls) (news ++ news') (launched ++ launched') s u where
  workers := by rw [h'.workers, h.workers, changed_changed f hdisjoint]
  inits := by rw [h'.inits, h.inits, List.append_assoc]
  spawned := by
    rw [List.map_append, ← List.append_assoc]
    exact Fading.trans (List.rel_append h.spawned (Fading.refl _)) h'.spawned

theorem Comes.after (h : Comes f ks news launched s t) (ha : Around t u) :
    Comes f ks news launched s u := by
  have htrans := h.trans (Around.comes ha) (by simp)
  simp only [List.append_nil] at htrans
  exact htrans

theorem Comes.before (ha : Around s t) (h : Comes f ks news launched t u) :
    Comes f ks news launched s u := (Around.comes ha).trans h (by simp)

/-- What is changed twice is as it has been changed last. -/
theorem Comes.again (h : Comes g [k] [] [] s t) (h' : Comes f [k] [] [] t u)
    (hlast : ∀ w, f k (g k w) = f k w) : Comes f [k] [] [] s u where
  workers := by
    rw [h'.workers, h.workers]
    funext j
    by_cases hj : j = k
    · subst hj
      simp [changed, hlast]
    · simp [changed, hj]
  inits := by rw [h'.inits, h.inits, List.append_nil]
  spawned := by
    have hbefore := h.spawned
    have hafter := h'.spawned
    rw [List.map_nil, List.append_nil] at hbefore hafter ⊢
    exact hbefore.trans hafter

/-! ## Single steps -/

/-- One call after the other. -/
theorem achieves_do {p : Routine (House δ) α} {q : α → Routine (House δ) β}
    {first : α → Scene (House δ) → Prop} {post : β → Scene (House δ) → Prop}
    (hp : Achieves first p s) (hq : ∀ a t, first a t → Achieves post (q a) t) :
    Achieves post (p >>= q) s :=
  Routine.assured_do interference_around (hp.imp hq)

theorem achieves_pure {a : α} {post : α → Scene (House δ) → Prop}
    (h : ∀ t, Around s t → post a t) : Achieves post (pure a) s := h

theorem achieves_look :
    Achieves (fun h t => h.workers = s.state.workers ∧ Around s t) .look s :=
  Routine.assured_look (fun _ => trivial) fun _ ht _ hu =>
    ⟨ht.state.workers, interference_around.trans ht hu⟩

/-- What is done to the world is no matter of the calls. -/
theorem achieves_world {p : Routine δ α} (hp : p.Taskless) :
    Achieves (fun _ t => Around s t) (p.within worldPart) s :=
  Routine.assured_within interference_around
    (fun _ _ => ⟨⟨⟨rfl, rfl⟩, Fading.refl _⟩, trivial⟩) hp fun _ _ ht => ht

theorem achieves_change_world (g : δ → δ) :
    Achieves (fun _ t => Around s t) (.change (worldPart.modify g)) s := by
  refine Routine.assured_change fun t ht => ⟨trivial, fun u hu => ?_⟩
  have hchanged : Around t (t.change (worldPart.modify g)) := ⟨⟨rfl, rfl⟩, Fading.refl _⟩
  exact interference_around.trans (interference_around.trans ht hchanged) hu

theorem achieves_note (call : InitCall) :
    Achieves (fun _ t => Comes f [] [call] [] s t) (.change (note call)) s := by
  refine Routine.assured_change fun t ht => ⟨trivial, fun u hu => ?_⟩
  have hnoted : Comes f [] [call] [] t (t.change (note call)) := by
    refine ⟨(changed_nil _ _).symm, rfl, ?_⟩
    rw [List.map_nil, List.append_nil]
    exact Fading.refl _
  exact (Comes.before ht hnoted).after hu

theorem achieves_worker (k : Nat) :
    Achieves (fun _ t => Comes f [k] [] [] s t) (.change ((workerPart k).modify (f k))) s := by
  refine Routine.assured_change fun t ht => ⟨trivial, fun u hu => ?_⟩
  have hchanged : Comes f [k] [] [] t (t.change ((workerPart k).modify (f k))) := by
    refine ⟨update_eq_changed f k t.state.workers, (List.append_nil _).symm, ?_⟩
    rw [List.map_nil, List.append_nil]
    exact Fading.refl _
  exact (Comes.before ht hchanged).after hu

theorem achieves_launch (k : Nat) :
    Achieves (fun _ t => Comes f [] [] [k] s t) (.launch k (.done ())) s := by
  intro t ht
  refine ⟨trivial, fun u hu => ?_⟩
  have hlaunched : Comes f [] [] [k] t (t.launch k) :=
    ⟨(changed_nil _ _).symm, (List.append_nil _).symm, Fading.refl _⟩
  exact (Comes.before ht hlaunched).after hu

theorem achieves_cancel (k : Nat) :
    Achieves (fun _ t => Around s t) (.cancel k (.done ())) s := fun _ ht => ht

theorem achieves_join (k : Nat) :
    Achieves (fun _ t => Around s t ∧ t.IsOver k) (.join k (.done ())) s :=
  fun _ ht hover _ hu => ⟨interference_around.trans ht hu, hover.after hu.spawned⟩

/-! ## Making ready -/

/-- The change of a module that has been made ready. -/
def readied (_ : Nat) (w : Worker) : Worker := w.markInitialized

/-- The members of a list that go with an answer that is a success. -/
def accepted {ι : Type*} (ms : List ι) (answers : List (Outcome Unit)) : List ι :=
  ((ms.zip answers).filter fun p => p.2.isOk).map Prod.fst

/-- Initializations that have been answered, from a number on. -/
def calls (answers : List (Outcome Unit)) (first : Nat) : List InitCall :=
  (answers.zipIdx first).flatMap fun p => [.begun p.2, .ended p.2 p.1]

section Accepted

variable {ι κ : Type*} {ms : List ι} {answers : List (Outcome Unit)}

theorem accepted_map (g : ι → κ) : accepted (ms.map g) answers = (accepted ms answers).map g := by
  induction ms generalizing answers with
  | nil => rfl
  | cons m ms ih =>
      cases answers with
      | nil => rfl
      | cons answer answers =>
          cases answer with
          | error fault => exact ih
          | ok _ => exact congrArg (g m :: ·) ih

theorem sublist_accepted : (accepted ms answers).Sublist ms := by
  induction ms generalizing answers with
  | nil => exact .slnil
  | cons m ms ih =>
      cases answers with
      | nil => exact List.nil_sublist _
      | cons answer answers =>
          cases answer with
          | error fault => exact .cons m ih
          | ok _ => exact .cons_cons m ih

end Accepted

/-- The number of a module is none of those behind it. -/
theorem not_mem_zipIdx {ι : Type*} (ms : List ι) (first : Nat) :
    first ∉ (ms.zipIdx (first + 1)).map Prod.snd := by
  simp

theorem nodup_numbers {ι : Type*} (ms : List ι) (first : Nat) :
    ((ms.zipIdx first).map Prod.snd).Nodup := by
  simp [List.nodup_range']

variable {r : Resident δ} {log : LogEntry → δ → δ}

/-- The initialization of a module changes what it knows of its task if it succeeds. -/
theorem achieves_plainInit (hplain : r.Plain) (k : Nat) :
    Achieves (fun answer t => Comes readied (if answer.isOk then [k] else []) [] [] s t)
      (r.plain k).init s := by
  cases r with
  | poller source sink ledger write interval =>
      obtain ⟨hprepare, hinit, -, -⟩ := hplain
      refine achieves_do (achieves_world (Routine.taskless_of_bracketed hprepare)) ?_
      intro answer t ht
      cases answer with
      | error fault => exact achieves_pure fun u hu => (Around.comes ht).after hu
      | ok _ =>
          refine achieves_do (achieves_world (Routine.taskless_of_bracketed hinit)) ?_
          intro answer u hu
          have hbefore := interference_around.trans ht hu
          cases answer with
          | error fault => exact achieves_pure fun v hv => (Around.comes hbefore).after hv
          | ok _ =>
              refine achieves_do (achieves_worker (f := readied) k) fun _ v hv => ?_
              exact achieves_pure fun w hw => (hv.before hbefore).after hw
  | updater action ledger interval =>
      obtain ⟨hinit, -⟩ := hplain
      refine achieves_do (achieves_world (Routine.taskless_of_bracketed hinit)) ?_
      intro answer t ht
      cases answer with
      | error fault => exact achieves_pure fun u hu => (Around.comes ht).after hu
      | ok _ =>
          refine achieves_do (achieves_worker (f := readied) k) fun _ u hu => ?_
          exact achieves_pure fun v hv => (hu.before ht).after hv

theorem achieves_init (hplain : r.Plain) (k : Nat) :
    Achieves (fun answer t =>
        Comes readied (if answer.isOk then [k] else []) [.begun k, .ended k answer] [] s t)
      (r.toModule log k).init s := by
  refine achieves_do (achieves_note (f := readied) (.begun k)) fun _ t ht => ?_
  refine achieves_do (achieves_plainInit hplain k) fun answer u hu => ?_
  refine achieves_do (achieves_note (f := readied) (.ended k answer)) fun _ v hv => ?_
  refine achieves_pure fun w hw => ?_
  have hall := ((ht.trans hu (by simp)).trans hv (by simp)).after hw
  rw [List.append_nil] at hall
  exact hall

/-- Each module is made ready once, in order; those with which that succeeds are told. -/
theorem assured_initAll {report : Module (House δ) → Fault → LogEntry}
    {residents : List (Resident δ)} (hplain : ∀ r ∈ residents, r.Plain) (first : Nat) :
    Achieves (fun ready t => ∃ answers, answers.length = residents.length ∧
        ready = (accepted (residents.zipIdx first) answers).map (moduleAt log) ∧
        Comes readied ((accepted (residents.zipIdx first) answers).map Prod.snd)
          (calls answers first) [] s t)
      (Module.initAll (fun m f => .change (worldPart.modify (log (report m f))))
        ((residents.zipIdx first).map (moduleAt log))) s := by
  induction residents generalizing first s with
  | nil => exact achieves_pure fun t ht => ⟨[], rfl, rfl, Around.comes ht⟩
  | cons r rest ih =>
      have hrest : ∀ r ∈ rest, r.Plain := fun r hr => hplain r (List.mem_cons_of_mem _ hr)
      refine achieves_do (achieves_init (hplain r List.mem_cons_self) first) fun answer t ht => ?_
      cases answer with
      | error fault =>
          refine achieves_do (achieves_change_world _) fun _ u hu => ?_
          refine (ih hrest (first + 1)).imp fun ready v hv => ?_
          obtain ⟨answers, hlength, hready, hcomes⟩ := hv
          refine ⟨.error fault :: answers, congrArg (· + 1) hlength, hready, ?_⟩
          exact (ht.after hu).trans hcomes (List.disjoint_nil_left _)
      | ok _ =>
          refine achieves_do (ih hrest (first + 1)) fun ready u hu => ?_
          obtain ⟨answers, hlength, hready, hcomes⟩ := hu
          refine achieves_pure fun v hv => ?_
          refine ⟨.ok () :: answers, congrArg (· + 1) hlength, ?_, ?_⟩
          · rw [hready]
            rfl
          · have hnew : first ∉ (accepted (rest.zipIdx (first + 1)) answers).map Prod.snd :=
              fun h => not_mem_zipIdx rest first ((sublist_accepted.map Prod.snd).subset h)
            exact (ht.trans hcomes (List.singleton_disjoint.2 hnew)).after hv

theorem bracketed_init (hplain : r.Plain) (k : Nat) :
    Law.bracketed.holds (r.toModule log k).init := by
  have hworker : ∀ f, Law.bracketed.holds (.change ((workerPart (δ := δ) k).modify f)) :=
    fun f => Law.bracketed_change _
  have hinit : Law.bracketed.holds (r.plain k).init := by
    cases r with
    | poller source sink ledger write interval =>
        obtain ⟨hprepare, hinit, -, -⟩ := hplain
        exact Poller.obeys_init (bracketed_within hprepare) (bracketed_within hinit) hworker
    | updater action ledger interval =>
        exact Updater.obeys_init (bracketed_within hplain.1) hworker
  refine Law.bracketed.seq (Law.bracketed_change _) fun _ => ?_
  refine Law.bracketed.seq hinit fun answer => ?_
  exact Law.bracketed.seq (Law.bracketed_change _) fun _ => Law.bracketed.value _

/-- Making ready gives the lock back. -/
theorem bracketed_initAll {report : Module (House δ) → Fault → LogEntry}
    {residents : List (Resident δ)} (hplain : ∀ r ∈ residents, r.Plain) (first : Nat) :
    Law.bracketed.holds
      (Module.initAll (fun m f => .change (worldPart.modify (log (report m f))))
        ((residents.zipIdx first).map (moduleAt log))) := by
  induction residents generalizing first with
  | nil => exact Law.bracketed.value _
  | cons r rest ih =>
      have hrest := ih (fun r hr => hplain r (List.mem_cons_of_mem _ hr)) (first + 1)
      refine Law.bracketed.seq (bracketed_init (hplain r List.mem_cons_self) first) fun answer => ?_
      cases answer with
      | error fault => exact Law.bracketed.seq (Law.bracketed_change _) fun _ => hrest
      | ok _ => exact Law.bracketed.seq hrest fun _ => Law.bracketed.value _

/-! ## Starting -/

/-- The change of a module whose task is launched. -/
def started (k : Nat) (w : Worker) : Worker := { w with state := .running, task := some k }

/-- The start of a module that has been made ready launches its task. -/
theorem achieves_workerStart {k : Nat} (hready : (s.state.workers k).state = .initialized) :
    Achieves (fun answer t => answer = .ok () ∧ Comes started [k] [] [k] s t)
      (Worker.start (workerPart k) k) s := by
  refine achieves_do achieves_look fun h t ht => ?_
  obtain ⟨hworkers, haround⟩ := ht
  have hstartable : ((workerPart k).get h).startable = .ok () := by
    rw [Worker.startable_eq_ok_iff]
    show (h.workers k).state = _
    rw [hworkers, hready]
  simp only [hstartable]
  refine achieves_do (achieves_launch (f := started) k) fun _ u hu => ?_
  refine achieves_do (achieves_worker (f := started) k) fun _ v hv => ?_
  refine achieves_pure fun w hw => ⟨rfl, ?_⟩
  exact ((hu.before haround).trans hv (List.disjoint_nil_left _)).after hw

theorem achieves_start {k : Nat} (hready : (s.state.workers k).state = .initialized) :
    Achieves (fun answer t => answer = .ok () ∧ Comes started [k] [] [k] s t)
      (r.toModule log k).start s := by
  have hworker : Achieves (fun answer t => answer = .ok () ∧ Comes started [k] [] [k] s t)
      (r.plain k).start s := by
    rw [r.start_plain]
    exact achieves_workerStart hready
  refine achieves_do hworker fun answer t ht => ?_
  obtain ⟨rfl, hstarted⟩ := ht
  refine achieves_do (achieves_change_world _) fun _ u hu => ?_
  refine achieves_do (achieves_change_world _) fun _ v hv => ?_
  exact achieves_pure fun w hw => ⟨rfl, ((hstarted.after hu).after hv).after hw⟩

/-- Other modules are as they were. -/
theorem Comes.other (h : Comes f ks news launched s t) {j : Nat} (hj : j ∉ ks) :
    t.state.workers j = s.state.workers j := by
  rw [h.workers]
  exact if_neg hj

theorem Comes.own (h : Comes f ks news launched s t) {j : Nat} (hj : j ∈ ks) :
    t.state.workers j = f j (s.state.workers j) := by
  rw [h.workers]
  exact if_pos hj

/-- Each of these modules is started, and they are counted. -/
theorem assured_startAll {ms : List (Resident δ × Nat)} (hnodup : (ms.map Prod.snd).Nodup)
    (hready : ∀ m ∈ ms, (s.state.workers m.2).state = .initialized) :
    Achieves (fun n t => n = ms.length ∧
        Comes started (ms.map Prod.snd) [] (ms.map Prod.snd) s t)
      (Module.startAll (ms.map (moduleAt log))) s := by
  induction ms generalizing s with
  | nil => exact achieves_pure fun t ht => ⟨rfl, Around.comes ht⟩
  | cons m rest ih =>
      obtain ⟨hnew, hrest⟩ := List.nodup_cons.1 hnodup
      refine achieves_do (achieves_start (hready m List.mem_cons_self)) fun answer t ht => ?_
      obtain ⟨rfl, hstarted⟩ := ht
      have hready' : ∀ m ∈ rest, (t.state.workers m.2).state = .initialized := by
        intro m' hm'
        have hne : m'.2 ∉ [m.2] := by
          intro h
          rw [List.mem_singleton] at h
          exact hnew (h ▸ List.mem_map_of_mem hm')
        rw [hstarted.other hne]
        exact hready m' (List.mem_cons_of_mem _ hm')
      refine achieves_do (ih hrest hready') fun n u hu => ?_
      obtain ⟨rfl, hothers⟩ := hu
      refine achieves_pure fun v hv => ⟨rfl, ?_⟩
      exact (hstarted.trans hothers (List.singleton_disjoint.2 hnew)).after hv

theorem waitless_start (k : Nat) : (r.toModule log k).start.Waitless := by
  have hworker : (r.plain k).start.Waitless := by
    rw [r.start_plain]
    refine uses_do (uses_look trivial) fun h => ?_
    cases ((workerPart k).get h).startable with
    | error fault => exact uses_pure _
    | ok _ =>
        refine uses_do ⟨trivial, uses_pure ()⟩ fun _ => ?_
        exact uses_do (uses_change trivial _) fun _ => uses_pure _
  refine uses_do hworker fun answer => ?_
  cases answer with
  | error fault => exact uses_pure _
  | ok _ =>
      refine uses_do (uses_change trivial _) fun _ => ?_
      exact uses_do (uses_change trivial _) fun _ => uses_pure _

/-- Starting waits for nothing. -/
theorem waitless_startAll (ms : List (Resident δ × Nat)) :
    (Module.startAll (ms.map (moduleAt log))).Waitless := by
  induction ms with
  | nil => exact uses_pure 0
  | cons m rest ih =>
      refine uses_do (waitless_start m.2) fun answer => ?_
      cases answer with
      | error fault => exact ih
      | ok _ => exact uses_do ih fun _ => uses_pure _

/-! ## Stopping -/

/-- The change of a module that is to stop. -/
def asked (_ : Nat) (w : Worker) : Worker := { w with state := .aborting }

/-- The change of a module that has stopped. -/
def ended (_ : Nat) (w : Worker) : Worker := w.stopped

/-- A task that is over stays so while none is launched. -/
theorem Comes.isOver (h : Comes f ks news [] s t) {j : Nat} (hover : s.IsOver j) : t.IsOver j := by
  have hspawned := h.spawned
  rw [List.map_nil, List.append_nil] at hspawned
  exact hover.after hspawned

theorem achieves_wait {k : Nat} (htask : (s.state.workers k).task = some k) :
    Achieves (fun _ t => Comes ended [k] [] [] s t ∧ t.IsOver k)
      (Worker.wait (workerPart k)) s := by
  refine achieves_do achieves_look fun h t ht => ?_
  obtain ⟨hworkers, haround⟩ := ht
  have htask' : ((workerPart k).get h).task = some k := by
    show (h.workers k).task = _
    rw [hworkers, htask]
  simp only [htask']
  refine achieves_do (achieves_join k) fun _ u hu => ?_
  obtain ⟨haround', hover⟩ := hu
  refine (achieves_worker (f := ended) k).imp fun _ v hv => ⟨?_, hv.isOver hover⟩
  exact hv.before (interference_around.trans haround haround')

/-- The stop of a module whose task has been launched returns when that is over. -/
theorem achieves_workerAbort {k : Nat} (hrunning : (s.state.workers k).state = .running)
    (htask : (s.state.workers k).task = some k) :
    Achieves (fun _ t => Comes ended [k] [] [] s t ∧ t.IsOver k)
      (Worker.abort (workerPart k)) s := by
  refine achieves_do achieves_look fun h t ht => ?_
  obtain ⟨hworkers, haround⟩ := ht
  have hstate' : ¬((workerPart k).get h).state = .stopped := by
    show ¬(h.workers k).state = _
    rw [hworkers, hrunning]
    decide
  have htask' : ((workerPart k).get h).task = some k := by
    show (h.workers k).task = _
    rw [hworkers, htask]
  simp only [hstate', if_false, htask']
  refine achieves_do (achieves_worker (f := asked) k) fun _ u hu => ?_
  refine achieves_do (achieves_cancel k) fun _ v hv => ?_
  have hasked : Comes asked [k] [] [] s v := (hu.before haround).after hv
  have htask'' : (v.state.workers k).task = some k := by
    rw [hasked.own (List.mem_singleton_self k)]
    exact htask
  refine (achieves_wait htask'').imp fun _ w hw => ⟨?_, hw.2⟩
  exact hasked.again hw.1 fun _ => rfl

theorem achieves_abort {k : Nat} (hrunning : (s.state.workers k).state = .running)
    (htask : (s.state.workers k).task = some k) :
    Achieves (fun _ t => Comes ended [k] [] [] s t ∧ t.IsOver k) (r.toModule log k).abort s := by
  refine achieves_do achieves_look fun h t ht => ?_
  obtain ⟨hworkers, haround⟩ := ht
  have hstate : ¬((r.plain k).worker.get h).state = .stopped := by
    rw [r.worker_plain]
    show ¬(h.workers k).state = _
    rw [hworkers, hrunning]
    decide
  have hrunning' : (t.state.workers k).state = .running := by
    rw [haround.state.workers, hrunning]
  have htask' : (t.state.workers k).task = some k := by
    rw [haround.state.workers, htask]
  simp only [hstate, if_false, r.abort_plain]
  refine achieves_do (achieves_workerAbort hrunning' htask') fun _ u hu => ?_
  refine achieves_do (achieves_change_world _) fun _ v hv => ?_
  refine (achieves_change_world _).imp fun _ w hw => ?_
  have hlast := interference_around.trans hv hw
  exact ⟨(hu.1.before haround).after hlast, hu.2.after hlast.spawned⟩

/-- Each of these modules is stopped when its task is over. -/
theorem assured_abortAll {ms : List (Resident δ × Nat)} (hnodup : (ms.map Prod.snd).Nodup)
    (hrunning : ∀ m ∈ ms, (s.state.workers m.2).state = .running)
    (htask : ∀ m ∈ ms, (s.state.workers m.2).task = some m.2) :
    Achieves (fun _ t => Comes ended (ms.map Prod.snd) [] [] s t ∧ ∀ m ∈ ms, t.IsOver m.2)
      (Module.abortAll (ms.map (moduleAt log))) s := by
  induction ms generalizing s with
  | nil => exact achieves_pure fun t ht => ⟨Around.comes ht, by simp⟩
  | cons m rest ih =>
      obtain ⟨hnew, hrest⟩ := List.nodup_cons.1 hnodup
      have hhead := List.mem_cons_self (a := m) (l := rest)
      refine achieves_do (achieves_abort (hrunning m hhead) (htask m hhead)) fun _ t ht => ?_
      obtain ⟨hstopped, hover⟩ := ht
      have hother : ∀ m' ∈ rest, t.state.workers m'.2 = s.state.workers m'.2 := by
        intro m' hm'
        apply hstopped.other
        intro h
        rw [List.mem_singleton] at h
        exact hnew (h ▸ List.mem_map_of_mem hm')
      refine (ih hrest ?_ ?_).imp fun _ u hu => ⟨?_, ?_⟩
      · intro m' hm'
        rw [hother m' hm']
        exact hrunning m' (List.mem_cons_of_mem _ hm')
      · intro m' hm'
        rw [hother m' hm']
        exact htask m' (List.mem_cons_of_mem _ hm')
      · exact hstopped.trans hu.1 (List.singleton_disjoint.2 hnew)
      · intro m' hm'
        rcases List.mem_cons.1 hm' with rfl | hm'
        · exact hu.1.isOver hover
        · exact hu.2 m' hm'

end House

end HomeEnergy
