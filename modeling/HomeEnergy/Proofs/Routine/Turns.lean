import HomeEnergy.Proofs.Routine.Amid
import HomeEnergy.Routine.Schedule

/-!
# What a step of a schedule does to one task

Whatever the main routine and the other tasks are, one step of a schedule does one of three things
to a task. Others act, which may ask it to stop, launch it or give it the lock; the task itself
takes a turn; or the clock moves on, and then only as far as the task sleeps. What holds along a run
follows from these three cases.

## Main results

* `Schedule.perform_touches` — what a routine that runs may do to a task.
* `Schedule.perform_endsAmid` — a routine that runs until it has to wait goes on to its ends.
* `Schedule.step_task` — the three cases.
-/

namespace HomeEnergy

variable {σ α β : Type}

/-! ## What others do to a task -/

/-- What others may do to a task: give it the lock, launch it, ask it to stop. -/
structure Task.Touched (t t' : Task σ) : Prop where
  body : t'.body = t.body
  ticker : t'.ticker = t.ticker
  cancelled : t.cancelled = true → t'.cancelled = true
  progress : t'.progress = t.progress ∨ t'.progress = .beginning ∨
    ∃ p, t.progress = .inRound (.queued p) ∧ t'.progress = .inRound (.ready p)

namespace Task.Touched

theorem refl (t : Task σ) : Touched t t := ⟨rfl, rfl, id, .inl rfl⟩

theorem trans {t u v : Task σ} (h : Touched t u) (h' : Touched u v) : Touched t v := by
  refine ⟨h'.body.trans h.body, h'.ticker.trans h.ticker,
    fun hc => h'.cancelled (h.cancelled hc), ?_⟩
  rcases h'.progress with hsame | hbegin | ⟨p, hq, hr⟩
  · rw [hsame]
    exact h.progress
  · exact .inr (.inl hbegin)
  · rcases h.progress with hsame | hbegin | ⟨q, _, hr'⟩
    · exact .inr (.inr ⟨p, hsame ▸ hq, hr⟩)
    · rw [hbegin] at hq
      cases hq
    · rw [hr'] at hq
      cases hq

theorem launch (t : Task σ) : Touched t { t with progress := .beginning } :=
  ⟨rfl, rfl, id, .inr (.inl rfl)⟩

theorem cancel (t : Task σ) : Touched t { t with cancelled := true } :=
  ⟨rfl, rfl, fun _ => rfl, .inl rfl⟩

theorem grant (t : Task σ) : Touched t t.grant := by
  obtain ⟨body, progress, cancelled, ticker⟩ := t
  cases progress with
  | inRound phase =>
      cases phase with
      | queued p => exact ⟨rfl, rfl, id, .inr (.inr ⟨p, rfl, rfl⟩)⟩
      | _ => exact refl _
  | _ => exact refl _

/-- Others do not end a task. -/
theorem going {t t' : Task σ} (h : Touched t t') (hover : t.isOver = false) :
    t'.isOver = false := by
  rcases h.progress with hsame | hbegin | ⟨p, _, hready⟩
  · simpa [Task.isOver, hsame] using hover
  · simp [Task.isOver, hbegin]
  · simp [Task.isOver, hready]

end Task.Touched

namespace Schedule

/-- Every task is what it was, up to what others may do to it. -/
def Touches (s s' : Schedule σ α) : Prop :=
  ∀ (i : Nat) (t : Task σ), s.tasks[i]? = some t → ∃ t', s'.tasks[i]? = some t' ∧ t.Touched t'

namespace Touches

variable {s s' s'' : Schedule σ α}

theorem refl (s : Schedule σ α) : s.Touches s := fun _ t h => ⟨t, h, .refl t⟩

theorem of_tasks_eq (h : s'.tasks = s.tasks) : s.Touches s' :=
  fun i t ht => ⟨t, by rw [h]; exact ht, .refl t⟩

theorem trans (h : s.Touches s') (h' : s'.Touches s'') : s.Touches s'' := by
  intro i t ht
  obtain ⟨u, hu, htouch⟩ := h i t ht
  obtain ⟨v, hv, htouch'⟩ := h' i u hu
  exact ⟨v, hv, htouch.trans htouch'⟩

theorem onTask (s : Schedule σ α) (task : Nat) {f : Task σ → Task σ}
    (hf : ∀ t : Task σ, t.Touched (f t)) : s.Touches (s.onTask task f) := by
  intro i t ht
  refine ⟨if task = i then f t else t, ?_, ?_⟩
  · simp only [Schedule.onTask, List.getElem?_modify, ht]
    rfl
  · by_cases h : task = i
    · rw [if_pos h]
      exact hf t
    · rw [if_neg h]
      exact .refl t

end Touches

theorem onTask_self {s : Schedule σ α} {i : Nat} {t : Task σ} (h : s.tasks[i]? = some t)
    (f : Task σ → Task σ) : (s.onTask i f).tasks[i]? = some (f t) := by
  simp [onTask, h]

theorem onTask_of_ne {s : Schedule σ α} {i j : Nat} (h : j ≠ i) (f : Task σ → Task σ) :
    (s.onTask j f).tasks[i]? = s.tasks[i]? := by
  simp [onTask, h]

theorem unlock_touches (s : Schedule σ α) : s.Touches s.unlock := by
  unfold unlock
  split
  · exact .of_tasks_eq rfl
  · exact .of_tasks_eq rfl
  · next task rest _ =>
    exact (Touches.onTask s task Task.Touched.grant).trans (.of_tasks_eq rfl)

theorem unlock_now (s : Schedule σ α) : s.unlock.now = s.now := by
  unfold unlock
  split <;> rfl

theorem unlock_state (s : Schedule σ α) : s.unlock.state = s.state := by
  unfold unlock
  split <;> rfl

/-- Giving back the lock is nothing to a main routine that does not wait for it. -/
theorem unlock_main {s : Schedule σ α} (h : ∀ q, s.main ≠ .queued q) : s.unlock.main = s.main := by
  unfold unlock
  split
  · rfl
  · show s.main.grant = s.main
    cases hmain : s.main with
    | queued q => exact absurd hmain (h q)
    | _ => rfl
  · rfl

/-- Whether a task is over can be read off the task. -/
theorem isOver_of_task {s : Schedule σ α} {i : Nat} {t : Task σ} (h : s.tasks[i]? = some t) :
    s.isOver i = t.isOver := by
  simp [isOver, h]

/-! ## Routines that run -/

theorem perform_now (s : Schedule σ α) (me : Option Nat) (p : Routine σ β) :
    (s.perform me p).1.now = s.now := by
  induction p generalizing s with
  | done b => rfl
  | act change next ih => exact ih s.state { s with state := change s.state }
  | clock next ih => exact ih s.now s
  | sleep d next ih =>
      simp only [perform]
      split
      · exact ih s
      · rfl
  | acquire next ih =>
      simp only [perform]
      split
      · rfl
      · exact ih { s with held := true }
  | release next ih => exact (ih s.unlock).trans s.unlock_now
  | launch task next ih => exact ih (s.onTask task ({ · with progress := .beginning }))
  | cancel task next ih => exact ih (s.onTask task ({ · with cancelled := true }))
  | join task next ih =>
      simp only [perform]
      split
      · exact ih s
      · rfl

/-- Whoever runs: a main routine that does not wait for the lock stays where it is. -/
theorem perform_main {s : Schedule σ α} (me : Option Nat) (p : Routine σ β)
    (h : ∀ q, s.main ≠ .queued q) : (s.perform me p).1.main = s.main := by
  induction p generalizing s with
  | done b => rfl
  | act change next ih => exact ih s.state (s := { s with state := change s.state }) h
  | clock next ih => exact ih s.now h
  | sleep d next ih =>
      simp only [perform]
      split
      · exact ih h
      · rfl
  | acquire next ih =>
      simp only [perform]
      split
      · rfl
      · exact ih (s := { s with held := true }) h
  | release next ih =>
      have hmain := unlock_main h
      refine (ih (s := s.unlock) ?_).trans hmain
      rw [hmain]
      exact h
  | launch task next ih => exact ih (s := s.onTask task ({ · with progress := .beginning })) h
  | cancel task next ih => exact ih (s := s.onTask task ({ · with cancelled := true })) h
  | join task next ih =>
      simp only [perform]
      split
      · exact ih h
      · rfl

theorem perform_touches (s : Schedule σ α) (me : Option Nat) (p : Routine σ β) :
    s.Touches (s.perform me p).1 := by
  induction p generalizing s with
  | done b => exact .refl s
  | act change next ih =>
      have hfirst : s.Touches { s with state := change s.state } := .of_tasks_eq rfl
      exact hfirst.trans (ih s.state _)
  | clock next ih => exact ih s.now s
  | sleep d next ih =>
      simp only [perform]
      split
      · exact ih s
      · exact .refl s
  | acquire next ih =>
      simp only [perform]
      split
      · exact .of_tasks_eq rfl
      · have hfirst : s.Touches { s with held := true } := .of_tasks_eq rfl
        exact hfirst.trans (ih _)
  | release next ih => exact s.unlock_touches.trans (ih s.unlock)
  | launch task next ih =>
      exact (Touches.onTask s task Task.Touched.launch).trans
        (ih (s.onTask task ({ · with progress := .beginning })))
  | cancel task next ih =>
      exact (Touches.onTask s task Task.Touched.cancel).trans
        (ih (s.onTask task ({ · with cancelled := true })))
  | join task next ih =>
      simp only [perform]
      split
      · exact ih s
      · exact .refl s

end Schedule

/-- The ends of a routine that has come to a phase, amid others. -/
def Phase.EndsAmid (others : σ → σ → Prop) : Phase σ β → σ → β → σ → Prop
  | .ready p | .sleeping _ p | .queued p | .joining _ p => p.EndsAmid others
  | .ended b => fun s b' s' => b = b' ∧ others s s'

theorem Phase.EndsAmid.before {others : σ → σ → Prop} (ho : Routine.Interference others)
    {phase : Phase σ β} {s t s' : σ} {b : β} (h : others s t)
    (hphase : phase.EndsAmid others t b s') : phase.EndsAmid others s b s' := by
  cases phase with
  | ended r => exact ⟨hphase.1, ho.trans h hphase.2⟩
  | ready p => exact Routine.EndsAmid.before ho h hphase
  | sleeping wake p => exact Routine.EndsAmid.before ho h hphase
  | queued p => exact Routine.EndsAmid.before ho h hphase
  | joining task p => exact Routine.EndsAmid.before ho h hphase

namespace Schedule

/-- A routine that runs until it has to wait can only go on to ends that it had from the start. -/
theorem perform_endsAmid {others : σ → σ → Prop} (ho : Routine.Interference others)
    (s : Schedule σ α) (me : Option Nat) (p : Routine σ β) {b : β} {x : σ}
    (h : (s.perform me p).2.EndsAmid others (s.perform me p).1.state b x) :
    p.EndsAmid others s.state b x := by
  induction p generalizing s with
  | done c => exact h
  | act change next ih =>
      exact ⟨s.state, ho.refl _, ih s.state { s with state := change s.state } h⟩
  | clock next ih => exact ⟨s.now, ih s.now s h⟩
  | sleep d next ih =>
      simp only [perform] at h
      split at h
      · exact ih s h
      · exact h
  | acquire next ih =>
      simp only [perform] at h
      split at h
      · exact h
      · exact ih { s with held := true } h
  | release next ih =>
      have hnext := ih s.unlock h
      rw [unlock_state] at hnext
      exact hnext
  | launch task next ih => exact ih (s.onTask task ({ · with progress := .beginning })) h
  | cancel task next ih => exact ih (s.onTask task ({ · with cancelled := true })) h
  | join task next ih =>
      simp only [perform] at h
      split at h
      · exact ih s h
      · exact h

/-! ## Whose turn it is -/

/-- Whether the main routine goes on with the next step. -/
def mainActs (s : Schedule σ α) : Bool :=
  match s.main with
  | .ready _ => true
  | .joining task _ => s.isOver task
  | _ => false

/-- The task that takes the next turn; nothing, if the main routine goes on or the clock moves. -/
def acting? (s : Schedule σ α) : Option Nat :=
  if s.mainActs then none else s.firstReady?.map Prod.fst

theorem ready_of_firstReady? {s : Schedule σ α} {i : Nat} {t : Task σ}
    (h : s.firstReady? = some (i, t)) : s.tasks[i]? = some t ∧ t.isReady s.now = true := by
  obtain ⟨⟨u, j⟩, hmem, hu⟩ := List.exists_of_findSome?_eq_some h
  have hget : s.tasks[j]? = some u := List.mem_zipIdx_iff_getElem?.1 hmem
  by_cases hready : u.isReady s.now = true
  · simp only [hready, if_true, Option.some.injEq, Prod.mk.injEq] at hu
    obtain ⟨rfl, rfl⟩ := hu
    exact ⟨hget, hready⟩
  · simp [hready] at hu

theorem not_ready_of_firstReady? {s : Schedule σ α} (h : s.firstReady? = none) {i : Nat}
    {t : Task σ} (ht : s.tasks[i]? = some t) : t.isReady s.now = false := by
  have hnone := List.findSome?_eq_none_iff.1 h (t, i) (List.mem_zipIdx_iff_getElem?.2 ht)
  by_cases hready : t.isReady s.now = true
  · simp [hready] at hnone
  · exact Bool.eq_false_iff.2 hready

/-- The clock does not move past the instant at which a task wakes. -/
theorem nextWake?_le {s : Schedule σ α} {n : Nat} (h : s.nextWake? = some n) {i : Nat}
    {t : Task σ} (ht : s.tasks[i]? = some t) {wake : Nat} (hw : t.wake? = some wake) :
    n ≤ wake := by
  have hleast := (List.min?_eq_some_iff.1 h).2
  apply hleast
  have hmem : t ∈ s.tasks := List.mem_of_getElem? ht
  exact List.mem_append_right _ (List.mem_filterMap.2 ⟨t, hmem, hw⟩)

/-- A step is one of the main routine, the turn of a task, or a move of the clock. -/
inductive Goes (a b : Schedule σ α) : Prop where
  | main (p : Routine σ α) (acts : a.mainActs = true)
      (after : b = { (a.perform none p).1 with main := (a.perform none p).2 })
  | joined (p : Routine σ α) (acts : a.mainActs = true)
      (after : b = { a with main := .ready p })
  | task (i : Nat) (t : Task σ) (acting : a.acting? = some i) (here : a.tasks[i]? = some t)
      (ready : t.isReady a.now = true) (after : b = a.turn i t)
  | clock (n : Nat) (acting : a.acting? = none) (waiting : a.firstReady? = none)
      (wake : a.nextWake? = some n) (after : b = a.advance n)

/-- One step when the main routine has to wait. -/
theorem goes_of_waiting {a b : Schedule σ α} (hmain : a.mainActs = false)
    (h : (match a.firstReady? with
      | some (i, t) => some (a.turn i t)
      | none => a.nextWake?.map a.advance) = some b) : a.Goes b := by
  have hacting : a.acting? = a.firstReady?.map Prod.fst := by
    simp [acting?, hmain]
  cases hfirst : a.firstReady? with
  | some it =>
      obtain ⟨i, t⟩ := it
      obtain ⟨hget, hready⟩ := ready_of_firstReady? hfirst
      rw [hfirst] at h hacting
      exact .task i t hacting hget hready (Option.some.inj h).symm
  | none =>
      rw [hfirst] at h hacting
      obtain ⟨n, hn, hb⟩ := Option.map_eq_some_iff.1 h
      exact .clock n hacting hfirst hn hb.symm

theorem goes_of_step {a b : Schedule σ α} (h : a.step? = some b) : a.Goes b := by
  unfold step? at h
  cases hmain : a.main with
  | ready p =>
      simp only [hmain, Option.some.injEq] at h
      exact .main p (by simp [mainActs, hmain]) h.symm
  | joining task p =>
      simp only [hmain] at h
      by_cases hover : a.isOver task = true
      · simp only [hover, if_true, Option.some.injEq] at h
        exact .joined p (by simp [mainActs, hmain, hover]) h.symm
      · simp only [hover] at h
        exact goes_of_waiting (by simp [mainActs, hmain, hover]) h
  | sleeping wake p =>
      simp only [hmain] at h
      exact goes_of_waiting (by simp [mainActs, hmain]) h
  | queued p =>
      simp only [hmain] at h
      exact goes_of_waiting (by simp [mainActs, hmain]) h
  | ended r =>
      simp only [hmain] at h
      exact goes_of_waiting (by simp [mainActs, hmain]) h

/-! ## What a step does to a task -/

/-- What becomes of a task in a step: from a schedule to the next one, and from the task to what it
is then. -/
inductive Moves (i : Nat) (a b : Schedule σ α) (t t' : Task σ) : Prop where
  /-- Others act. -/
  | others (acting : a.acting? ≠ some i) (now : b.now = a.now) (touched : t.Touched t')
  /-- The clock moves, not past the instant at which the task wakes. -/
  | clock (acting : a.acting? = none) (waiting : t.isReady a.now = false)
      (state : b.state = a.state) (now : a.now ≤ b.now)
      (wake : ∀ w, t.wake? = some w → b.now ≤ max a.now w) (after : t' = t.awake b.now)
  /-- The task begins. -/
  | begins (acting : a.acting? = some i) (here : t.progress = .beginning)
      (state : b.state = a.state) (now : b.now = a.now) (after : t' = t.begin a.now)
  /-- The task goes on with its round until it has to wait. -/
  | runs (p : Routine σ Unit) (u : Task σ) (acting : a.acting? = some i)
      (here : t.progress = .inRound (.ready p)) (touched : t.Touched u)
      (state : b.state = (a.perform (some i) p).1.state) (now : b.now = a.now)
      (after : t' = { u with progress := .inRound (a.perform (some i) p).2 })
  /-- The task has ended a round. -/
  | ends (acting : a.acting? = some i) (here : t.progress = .inRound (.ended ()))
      (state : b.state = a.state) (now : b.now = a.now) (after : t' = t.endRound a.now)
  /-- The task has waited for a tick or to be stopped. -/
  | proceeds (acting : a.acting? = some i) (here : t.progress = .between ∨ t.progress = .idling)
      (ready : t.isReady a.now = true) (state : b.state = a.state) (now : b.now = a.now)
      (after : t' = t.proceed a.now)

theorem turn_now (s : Schedule σ α) (i : Nat) (t : Task σ) : (s.turn i t).now = s.now := by
  unfold turn
  split
  · rfl
  · exact perform_now s (some i) _
  · rfl
  · rfl

theorem turn_main {s : Schedule σ α} (h : ∀ q, s.main ≠ .queued q) (i : Nat) (t : Task σ) :
    (s.turn i t).main = s.main := by
  unfold turn
  split
  · rfl
  · exact perform_main (some i) _ h
  · rfl
  · rfl

/-- The turn of a task is for all others a step of another. -/
theorem turn_of_ne {s : Schedule σ α} {i j : Nat} {t u : Task σ} (hne : j ≠ i)
    (ht : s.tasks[i]? = some t) : ∃ t', (s.turn j u).tasks[i]? = some t' ∧ t.Touched t' := by
  unfold turn
  split
  · rw [onTask_of_ne hne]
    exact ⟨t, ht, .refl t⟩
  · next p _ =>
    simp only [onTask_of_ne hne]
    exact perform_touches s (some j) p i t ht
  · rw [onTask_of_ne hne]
    exact ⟨t, ht, .refl t⟩
  · rw [onTask_of_ne hne]
    exact ⟨t, ht, .refl t⟩

/-- The turn of a task. -/
theorem moves_of_turn {s : Schedule σ α} {i : Nat} {t : Task σ} (hacting : s.acting? = some i)
    (ht : s.tasks[i]? = some t) (hready : t.isReady s.now = true) :
    ∃ t', (s.turn i t).tasks[i]? = some t' ∧ s.Moves i (s.turn i t) t t' := by
  have hnow := s.turn_now i t
  unfold turn at hnow ⊢
  cases hp : t.progress with
  | beginning => exact ⟨_, onTask_self ht _, .begins hacting hp rfl rfl rfl⟩
  | between => exact ⟨_, onTask_self ht _, .proceeds hacting (.inl hp) hready rfl rfl rfl⟩
  | idling => exact ⟨_, onTask_self ht _, .proceeds hacting (.inr hp) hready rfl rfl rfl⟩
  | inRound phase =>
      cases phase with
      | sleeping wake p => simp [Task.isReady, hp] at hready
      | queued p => simp [Task.isReady, hp] at hready
      | joining task p => simp [Task.isReady, hp] at hready
      | ended r => exact ⟨_, onTask_self ht _, .ends hacting hp rfl rfl rfl⟩
      | ready p =>
          obtain ⟨u, hu, htouch⟩ := perform_touches s (some i) p i t ht
          simp only [hp] at hnow ⊢
          exact ⟨_, onTask_self hu _, .runs p u hacting hp htouch rfl hnow rfl⟩
  | _ => simp [Task.isReady, hp] at hready

/-- What a step does to a task. -/
theorem step_task {a b : Schedule σ α} (h : a.step? = some b) {i : Nat} {t : Task σ}
    (ht : a.tasks[i]? = some t) : ∃ t', b.tasks[i]? = some t' ∧ a.Moves i b t t' := by
  cases goes_of_step h with
  | main p hacts hb =>
      obtain ⟨t', ht', htouch⟩ := perform_touches a none p i t ht
      subst hb
      exact ⟨t', ht', .others (by simp [acting?, hacts]) (perform_now a none p) htouch⟩
  | joined p hacts hb =>
      subst hb
      exact ⟨t, ht, .others (by simp [acting?, hacts]) rfl (.refl t)⟩
  | task j u hacting hu hready hb =>
      subst hb
      by_cases hij : j = i
      · subst hij
        rw [ht] at hu
        cases hu
        exact moves_of_turn hacting ht hready
      · obtain ⟨t', ht', htouch⟩ := turn_of_ne (u := u) hij ht
        exact ⟨t', ht', .others (by simp [hacting, hij]) (a.turn_now j u) htouch⟩
  | clock n hacting hwaiting hwake hb =>
      subst hb
      refine ⟨t.awake (max a.now n), by simp [advance, ht], ?_⟩
      refine .clock hacting (not_ready_of_firstReady? hwaiting ht) rfl (Nat.le_max_left _ _) ?_ rfl
      intro w hw
      have hle := nextWake?_le hwake ht hw
      show max a.now n ≤ max a.now w
      omega

/-! ## What a step does to the main routine -/

/-- The step of a main routine that can go on. -/
theorem step_of_ready {s : Schedule σ α} {p : Routine σ α} (h : s.main = .ready p) :
    s.step? = some { (s.perform none p).1 with main := (s.perform none p).2 } := by
  simp only [step?, h]

/-- The step of a main routine whose task has ended. -/
theorem step_of_joined {s : Schedule σ α} {p : Routine σ α} {task : Nat}
    (h : s.main = .joining task p) (hover : s.isOver task = true) :
    s.step? = some { s with main := .ready p } := by
  simp only [step?, h, hover, if_true]

/-- A main routine that waits for a task or has ended stays as it is while others act. -/
theorem main_of_waiting {a c : Schedule σ α} (hstep : a.step? = some c) (hidle : a.mainActs = false)
    (hmain : (∃ task p, a.main = .joining task p) ∨ ∃ r, a.main = .ended r) : c.main = a.main := by
  have hqueued : ∀ q, a.main ≠ .queued q := by
    rcases hmain with ⟨task, p, h⟩ | ⟨r, h⟩
    · simp [h]
    · simp [h]
  cases goes_of_step hstep with
  | main _ acts _ | joined _ acts _ =>
      rw [hidle] at acts
      cases acts
  | task j u _ _ _ hc =>
      subst hc
      exact turn_main hqueued j u
  | clock n _ _ _ hc =>
      subst hc
      show a.main.awake _ = a.main
      rcases hmain with ⟨task, p, h⟩ | ⟨r, h⟩
      · rw [h]
        rfl
      · rw [h]
        rfl

end Schedule

end HomeEnergy
