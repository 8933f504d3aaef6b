import HomeEnergy.Proofs.Polling.Cycles
import HomeEnergy.Proofs.Polling.Watch

/-!
# What a run of cycles leaves behind

A cycle may end in four ways: the query fails, its record cannot be written as a document, the sink
fails, or nothing does. Each of them leaves another mix of the cache, the sink and the counts
touched. Over a run of any length they add up: the cache holds the latest record that could be
written, the sink was handed all of those records, and every query was counted.

## Main results

* `PollerWatch.ends_cycle` — the three rows of deeds that a cycle may consist of.
* `PollerWatch.Kept.append` — what two runs leave behind, one after the other.
* `PollerWatch.kept_of_run` — what every run of cycles leaves behind, asked for or on ticks.
-/

namespace HomeEnergy

variable {δ ρ α : Type}

namespace PollDeed

/-- The record that a query has brought. -/
def record? : PollDeed ρ → Option ρ
  | queried (.ok x) => some x
  | _ => none

/-- The fault with which a query has failed. -/
def fault? : PollDeed ρ → Option Fault
  | queried (.error f) => some f
  | _ => none

/-- The record that has been handed to the sink. -/
def handed? : PollDeed ρ → Option ρ
  | handed x _ => some x
  | _ => none

end PollDeed

/-- The bytes of a record in the cache, if it can be written. -/
def payload? (write : ρ → Outcome Document) (x : ρ) : Option ByteArray :=
  match write x with
  | .ok d => some (Json.bytes d)
  | .error _ => none

namespace PollerWatch

/-- The deeds of one cycle, and its result. -/
inductive Round (write : ρ → Outcome Document) : List (PollDeed ρ) → Outcome Unit → Prop where
  /-- The query fails. -/
  | failed (f : Fault) : Round write [.queried (.error f)] (.error f)
  /-- The record cannot be written. -/
  | unwritable (x : ρ) (f : Fault) (bad : write x = .error f) :
      Round write [.queried (.ok x)] (.error f)
  /-- The record is cached and handed on. The sink has the last word. -/
  | handed (x : ρ) (d : Document) (answer : Outcome Unit) (good : write x = .ok d) :
      Round write [.queried (.ok x), .handed x (some (Json.bytes d)), .answered answer] answer

/-- What a run of cycles of the module with a name leaves behind, where others spare some entries of
the cache: the deeds of the run, and the results of its cycles. -/
structure Kept (name : String) (write : ρ → Outcome Document) (spared : String → Prop)
    (w : PollerWatch δ ρ) (news : List (PollDeed ρ)) (rs : List (Outcome Unit))
    (w' : PollerWatch δ ρ) : Prop where
  deeds : w'.deeds = w.deeds ++ news
  /-- The deeds are those of the cycles, one after the other. -/
  rounds : ∃ rounds : List (List (PollDeed ρ) × Outcome Unit),
    news = rounds.flatMap Prod.fst ∧ rs = rounds.map Prod.snd ∧
      ∀ round ∈ rounds, Round write round.1 round.2
  /-- The entry is the latest record that could be written. -/
  entry : w'.cache.get? name =
    ((news.filterMap PollDeed.record?).filterMap (payload? write)).getLast?.or (w.cache.get? name)
  /-- No other entry has changed. -/
  others : ∀ m, spared m → m ≠ name → w'.cache.get? m = w.cache.get? m
  /-- The sink has been handed the records that could be written, each once and in their order. -/
  handed : news.filterMap PollDeed.handed? =
    (news.filterMap PollDeed.record?).filter fun x => (payload? write x).isSome
  /-- The cache held each record when it was handed to the sink. -/
  cached : ∀ x entry, .handed x entry ∈ news → entry = payload? write x ∧ entry.isSome = true
  successes : w'.metrics.queryCount name "success" =
    w.metrics.queryCount name "success" + (news.filterMap PollDeed.record?).length
  failures : w'.metrics.queryCount name "failure" =
    w.metrics.queryCount name "failure" + (news.filterMap PollDeed.fault?).length

variable {name : String} {write : ρ → Outcome Document} {spared : String → Prop}

/-- As long as only others act, there is nothing new. -/
theorem Apart.kept {w w' : PollerWatch δ ρ} (h : Apart name spared w w') :
    Kept name write spared w [] [] w' where
  deeds := by rw [h.deeds, List.append_nil]
  rounds := ⟨[], rfl, rfl, fun _ hmem => absurd hmem List.not_mem_nil⟩
  entry := h.entry
  others m hm _ := h.others m hm
  handed := rfl
  cached _ _ hmem := absurd hmem List.not_mem_nil
  successes := h.counts _
  failures := h.counts _

/-- What two runs leave behind, one after the other. -/
theorem Kept.append {w w' w'' : PollerWatch δ ρ} {news news' : List (PollDeed ρ)}
    {rs rs' : List (Outcome Unit)} (h : Kept name write spared w news rs w')
    (h' : Kept name write spared w' news' rs' w'') :
    Kept name write spared w (news ++ news') (rs ++ rs') w'' where
  deeds := by rw [h'.deeds, h.deeds, List.append_assoc]
  rounds := by
    obtain ⟨rounds, rfl, rfl, hall⟩ := h.rounds
    obtain ⟨rounds', rfl, rfl, hall'⟩ := h'.rounds
    refine ⟨rounds ++ rounds', by simp, by simp, ?_⟩
    intro round hmem
    rcases List.mem_append.1 hmem with hmem | hmem
    · exact hall round hmem
    · exact hall' round hmem
  entry := by
    rw [h'.entry, h.entry, List.filterMap_append, List.filterMap_append, List.getLast?_append,
      Option.or_assoc]
  others m hm hne := (h'.others m hm hne).trans (h.others m hm hne)
  handed := by
    rw [List.filterMap_append, List.filterMap_append, List.filter_append, h.handed, h'.handed]
  cached x entry hmem := by
    rcases List.mem_append.1 hmem with hmem | hmem
    · exact h.cached x entry hmem
    · exact h'.cached x entry hmem
  successes := by
    rw [h'.successes, h.successes, List.filterMap_append, List.length_append, Nat.add_assoc]
  failures := by
    rw [h'.failures, h.failures, List.filterMap_append, List.length_append, Nat.add_assoc]

/-! ## One cycle -/

/-- Count a query. -/
def counted (name : String) (r : QueryResult) (w : PollerWatch δ ρ) : PollerWatch δ ρ :=
  { w with metrics := w.metrics.countQuery name r }

/-- Replace an entry of the cache. -/
def stored (name : String) (payload : ByteArray) (w : PollerWatch δ ρ) : PollerWatch δ ρ :=
  { w with cache := w.cache.put name payload }

/-- What others do before a step of the poller might as well be done after it. -/
theorem Apart.note {w w' : PollerWatch δ ρ} (h : Apart name spared w w') (d : PollDeed ρ) :
    Apart name spared (w.note d) (w'.note d) where
  deeds := by
    show w'.deeds ++ [d] = w.deeds ++ [d]
    rw [h.deeds]
  entry := h.entry
  others := h.others
  counts := h.counts

theorem Apart.counted {w w' : PollerWatch δ ρ} (h : Apart name spared w w') (r : QueryResult) :
    Apart name spared (w.counted name r) (w'.counted name r) where
  deeds := h.deeds
  entry := h.entry
  others := h.others
  counts t := by
    show (w'.metrics.countQuery name r).queryCount name t
      = (w.metrics.countQuery name r).queryCount name t
    rw [Metrics.queryCount_countQuery, Metrics.queryCount_countQuery, h.counts]

theorem Apart.stored {w w' : PollerWatch δ ρ} (h : Apart name spared w w') (b : ByteArray) :
    Apart name spared (w.stored name b) (w'.stored name b) where
  deeds := h.deeds
  entry := by
    show (w'.cache.put name b).get? name = (w.cache.put name b).get? name
    rw [Cache.get?_put, Cache.get?_put, if_pos rfl, if_pos rfl]
  others m hm := by
    show (w'.cache.put name b).get? m = (w.cache.put name b).get? m
    rw [Cache.get?_put, Cache.get?_put, h.others m hm]
  counts := h.counts

/-- One cycle hands a record on only if it can be written, and only when the cache holds it. -/
theorem Round.kept {w w' : PollerWatch δ ρ} {news : List (PollDeed ρ)} {r : Outcome Unit}
    (h : Round write news r) (deeds : w'.deeds = w.deeds ++ news)
    (entry : w'.cache.get? name = ((news.filterMap PollDeed.record?).filterMap
      (payload? write)).getLast?.or (w.cache.get? name))
    (others : ∀ m, m ≠ name → w'.cache.get? m = w.cache.get? m)
    (successes : w'.metrics.queryCount name "success" =
      w.metrics.queryCount name "success" + (news.filterMap PollDeed.record?).length)
    (failures : w'.metrics.queryCount name "failure" =
      w.metrics.queryCount name "failure" + (news.filterMap PollDeed.fault?).length) :
    Kept name write spared w news [r] w' where
  deeds
  rounds := by
    refine ⟨[(news, r)], (List.append_nil news).symm, rfl, ?_⟩
    intro round hmem
    rw [List.mem_singleton.1 hmem]
    exact h
  entry
  others m _ hne := others m hne
  handed := by
    cases h with
    | failed f => rfl
    | unwritable x f bad =>
        show [] = [x].filter fun x => (payload? write x).isSome
        simp [payload?, bad]
    | handed x d answer good =>
        show [x] = [x].filter fun x => (payload? write x).isSome
        simp [payload?, good]
  cached x b hmem := by
    cases h with
    | failed f => simp at hmem
    | unwritable y f bad => simp at hmem
    | handed y d answer good =>
        have hxb : x = y ∧ b = some (Json.bytes d) := by simpa using hmem
        obtain ⟨rfl, rfl⟩ := hxb
        exact ⟨by simp [payload?, good], rfl⟩
  successes
  failures

theorem kept_failed (w : PollerWatch δ ρ) (f : Fault) :
    Kept name write spared w [.queried (.error f)] [.error f]
      ((w.note (.queried (.error f))).counted name .failure) := by
  refine (Round.failed f).kept rfl rfl (fun _ _ => rfl) ?_ ?_
  · show (w.metrics.countQuery name .failure).queryCount name "success" = _
    rw [Metrics.queryCount_countQuery]
    rfl
  · show (w.metrics.countQuery name .failure).queryCount name "failure" = _
    rw [Metrics.queryCount_countQuery, if_pos ⟨rfl, rfl⟩]
    rfl

theorem kept_unwritable (w : PollerWatch δ ρ) {x : ρ} {f : Fault} (bad : write x = .error f) :
    Kept name write spared w [.queried (.ok x)] [.error f]
      ((w.note (.queried (.ok x))).counted name .success) := by
  refine (Round.unwritable x f bad).kept rfl ?_ (fun _ _ => rfl) ?_ ?_
  · show w.cache.get? name = ([x].filterMap (payload? write)).getLast?.or (w.cache.get? name)
    simp [payload?, bad]
  · show (w.metrics.countQuery name .success).queryCount name "success" = _
    rw [Metrics.queryCount_countQuery, if_pos ⟨rfl, rfl⟩]
    rfl
  · show (w.metrics.countQuery name .success).queryCount name "failure" = _
    rw [Metrics.queryCount_countQuery]
    rfl

theorem kept_handed (w : PollerWatch δ ρ) {x : ρ} {d : Document} (good : write x = .ok d)
    (answer : Outcome Unit) :
    Kept name write spared w
      [.queried (.ok x), .handed x (some (Json.bytes d)), .answered answer] [answer]
      (((((w.note (.queried (.ok x))).counted name .success).stored name (Json.bytes d)).note
        (.handed x (some (Json.bytes d)))).note (.answered answer)) := by
  refine (Round.handed x d answer good).kept ?_ ?_ ?_ ?_ ?_
  · show ((w.deeds ++ [_]) ++ [_]) ++ [_] = w.deeds ++ [_, _, _]
    rw [List.append_assoc, List.append_assoc]
    rfl
  · show (w.cache.put name (Json.bytes d)).get? name
      = ([x].filterMap (payload? write)).getLast?.or (w.cache.get? name)
    rw [Cache.get?_put, if_pos rfl]
    simp [payload?, good]
  · intro m hne
    show (w.cache.put name (Json.bytes d)).get? m = w.cache.get? m
    rw [Cache.get?_put, if_neg hne]
  · show (w.metrics.countQuery name .success).queryCount name "success" = _
    rw [Metrics.queryCount_countQuery, if_pos ⟨rfl, rfl⟩]
    rfl
  · show (w.metrics.countQuery name .success).queryCount name "failure" = _
    rw [Metrics.queryCount_countQuery]
    rfl

variable {s : Source δ ρ} {k : Sink δ ρ} {interval : Span} {task : Nat}

/-- Every cycle is one of the three rounds. -/
theorem ends_cycle {w w' : PollerWatch δ ρ} {r : Outcome Unit}
    (h : (poller s k write interval task).cycle.EndsAmid (Apart s.name spared) w r w') :
    ∃ news, Kept s.name write spared w news [r] w' := by
  obtain ⟨answer, w₁, hquery, h⟩ := (Routine.endsAmid_do interference_apart).1 h
  obtain ⟨u₁, hu₁, hw₁⟩ := ends_query hquery
  -- So far the query has been answered; all interference is moved behind it.
  have hqueried := (hu₁.note (.queried answer)).trans hw₁
  cases answer with
  | error f =>
      obtain ⟨_, w₂, hcount, rfl, hafter⟩ := (Routine.endsAmid_do interference_apart).1 h
      obtain ⟨u₂, hu₂, hw₂⟩ := Routine.endsAmid_change.1 hcount
      have hcounted := ((hqueried.trans hu₂).counted .failure).trans (hw₂.trans hafter)
      exact ⟨_, (kept_failed w f).append hcounted.kept⟩
  | ok x =>
      obtain ⟨_, w₂, hcount, h⟩ := (Routine.endsAmid_do interference_apart).1 h
      obtain ⟨u₂, hu₂, hw₂⟩ := Routine.endsAmid_change.1 hcount
      have hcounted := ((hqueried.trans hu₂).counted .success).trans hw₂
      obtain ⟨outcome, w₃, hstore, h⟩ := (Routine.endsAmid_do interference_apart).1 h
      have hstore' : (ledger.store s.name (write x)).EndsAmid (Apart s.name spared) w₂ outcome w₃ :=
        hstore
      cases hwrite : write x with
      | error f =>
          rw [hwrite] at hstore'
          obtain ⟨rfl, hw₃⟩ := hstore'
          obtain ⟨rfl, hafter⟩ := h
          have hunwritable := (hcounted.trans hw₃).trans hafter
          exact ⟨_, (kept_unwritable w hwrite).append hunwritable.kept⟩
      | ok d =>
          rw [hwrite] at hstore'
          obtain ⟨_, w₄, hput, rfl, hw₃⟩ := (Routine.endsAmid_do interference_apart).1 hstore'
          obtain ⟨u₃, hu₃, hw₄⟩ := Routine.endsAmid_change.1 hput
          have hstored := ((hcounted.trans hu₃).stored (Json.bytes d)).trans (hw₄.trans hw₃)
          obtain ⟨u₄, u₅, hu₄, hu₅, hw'⟩ := ends_write h
          -- Nobody else touches the entry, so the sink gets the record while the cache holds it.
          have hentry : u₄.cache.get? s.name = some (Json.bytes d) := by
            rw [(hstored.trans hu₄).entry]
            show (w.cache.put s.name (Json.bytes d)).get? s.name = some (Json.bytes d)
            rw [Cache.get?_put, if_pos rfl]
          rw [hentry] at hu₅
          have hhanded := ((hstored.trans hu₄).note (.handed x (some (Json.bytes d)))).trans hu₅
          have hanswered := (hhanded.note (.answered r)).trans hw'
          exact ⟨_, (kept_handed w hwrite r).append hanswered.kept⟩

/-- Every run of cycles leaves behind what its cycles do. -/
theorem kept_of_cycles {w w' : PollerWatch δ ρ} {rs : List (Outcome Unit)}
    (h : (poller s k write interval task).Cycles (Apart s.name spared) w rs w') :
    ∃ news, Kept s.name write spared w news rs w' := by
  induction h with
  | none hamid => exact ⟨[], hamid.kept⟩
  | one _ hcycle ih =>
      obtain ⟨news, hkept⟩ := ih
      obtain ⟨news', hkept'⟩ := ends_cycle hcycle
      exact ⟨news ++ news', hkept.append hkept'⟩

/-- Whatever the device and the sink answer, and in whichever order: a run of cycles leaves behind
what `Kept` says. That holds of cycles that are asked for one by one, and of the rounds of the task,
after each of them; and no answer ends the task, only a request to stop does. -/
theorem kept_of_run (s : Source δ ρ) (k : Sink δ ρ) (write : ρ → Outcome Document)
    (interval : Span) (task : Nat) (spared : String → Prop) :
    (∀ w rs w', (poller s k write interval task).Cycles (Apart s.name spared) w rs w' →
      ∃ news, Kept s.name write spared w news rs w') ∧
    ∀ (i : Nat) (a a' : Schedule (PollerWatch δ ρ) α) (l : Timeline) (t₀ : Task (PollerWatch δ ρ)),
      a.tasks[i]? = some t₀ → t₀.progress = .beginning →
      t₀.body = (poller s k write interval task).body →
      Schedule.Course i (Apart s.name spared) a l a' →
      ∃ t, a'.tasks[i]? = some t ∧
        (t.isOver = true → t.cancelled = true ∨ interval.nanos = 0) ∧
        ∃ news rs w, rs.length = l.ends.length ∧ Kept s.name write spared a.state news rs w ∧
          (t.busy = false → w = a'.state) := by
  refine ⟨fun w rs w' h => kept_of_cycles h, ?_⟩
  intro i a a' l t₀ ht₀ hbegin hbody hcourse
  have hpace : t₀.body.pace = .ticking interval := by
    rw [hbody]
    rfl
  obtain ⟨t, ht, _, _, hover⟩ := hcourse.loop ht₀ hbegin hpace
  obtain ⟨t', rs, w, ht', hcount, hrun, hstage⟩ :=
    Poller.cycles_of_course interference_apart hcourse ht₀ hbegin hbody
  have htt' : t' = t := Option.some.inj (ht'.symm.trans ht)
  subst htt'
  obtain ⟨news, hkept⟩ := kept_of_cycles hrun
  exact ⟨t', ht, hover, news, rs, w, hcount, hkept, hstage.between⟩

/-! ## A run that goes wrong in every way -/

/-- A meter that answers as it is told. -/
def scriptedMeter : Source (List (Outcome Nat)) Nat where
  name := "meter"
  init := pure (.ok ())
  query := .changeTelling List.tail fun answers => answers.headD (.ok 0)

/-- A sink that takes every record but one. -/
def scriptedSink : Sink (List (Outcome Nat)) Nat where
  prepare := pure (.ok ())
  write x := pure (if x = 4 then .error (.persistence "full") else .ok ())

/-- Every record but one can be written. -/
def scriptedWrite (x : Nat) : Outcome Document :=
  if x = 3 then .error (.serialization "no document") else .ok (.int x)

/-- A poller between them, each second. -/
def scriptedPoller : Poller (PollerWatch (List (Outcome Nat)) Nat) Nat :=
  poller scriptedMeter scriptedSink scriptedWrite (.ofMillis 1000) 0

/-- Its task begins. -/
def scriptedStart : Schedule (PollerWatch (List (Outcome Nat)) Nat) Unit where
  state := {
    worker := { name := "meter" }
    device := [.ok 1, .error (.timeout "meter"), .ok 3, .ok 4] }
  main := .ended ()
  tasks := [{ body := scriptedPoller.body, progress := .beginning }]

/-- The rounds that it goes through at once, in nanoseconds. -/
def scriptedTicks : Timeline where
  starts := [1000000000, 2000000000, 3000000000, 4000000000]
  ends := [1000000000, 2000000000, 3000000000, 4000000000]

/-- After one cycle on request, and after four on ticks that go wrong in every way. -/
theorem kept_of_run_scripted :
    (∃ w news, Kept "meter" scriptedWrite (fun _ => True) scriptedStart.state news [.ok ()] w) ∧
    ∃ a', Schedule.Course 0 (Apart "meter" fun _ => True) scriptedStart scriptedTicks a' ∧
      ∃ t news rs, a'.tasks[0]? = some t ∧ (t.isOver = true → t.cancelled = true) ∧
        rs.length = 4 ∧
        Kept "meter" scriptedWrite (fun _ => True) scriptedStart.state news rs a'.state := by
  have hrun := kept_of_run (α := Unit) scriptedMeter scriptedSink scriptedWrite (.ofMillis 1000) 0
    fun _ => True
  obtain ⟨hcycles, hloop⟩ := hrun
  constructor
  · have hcycle : scriptedPoller.cycle.EndsAmid (Apart "meter" fun _ => True) scriptedStart.state
        (.ok ()) (scriptedPoller.cycle.alone 0 scriptedStart.state).2.2 :=
      Routine.endsAmid_alone interference_apart scriptedPoller.cycle 0 scriptedStart.state
    exact ⟨_, hcycles _ _ _ (.one (.none (.refl _)) hcycle)⟩
  · have hfollow : (Schedule.follow 0 17 {} scriptedStart).map
        (fun x => (x.1, x.2.tasks[0]?.map Task.busy)) = some (scriptedTicks, some false) := by
      decide +kernel
    obtain ⟨⟨l, a'⟩, hfollow, hseen⟩ := Option.map_eq_some_iff.1 hfollow
    obtain ⟨rfl, hbusy⟩ := Prod.mk.inj hseen
    have hcourse : Schedule.Course 0 (Apart "meter" fun _ => True) scriptedStart scriptedTicks a' :=
      Schedule.course_of_follow interference_apart .start hfollow
    obtain ⟨t, ht, hover, news, rs, w, hcount, hkept, hstate⟩ :=
      hloop 0 scriptedStart a' _ _ rfl rfl rfl hcourse
    have hidle : t.busy = false := by
      rw [ht] at hbusy
      exact Option.some.inj hbusy
    rw [hstate hidle] at hkept
    refine ⟨a', hcourse, t, news, rs, ht, fun h => ?_, hcount, hkept⟩
    rcases hover h with hasked | hzero
    · exact hasked
    · cases hzero

end PollerWatch

end HomeEnergy
