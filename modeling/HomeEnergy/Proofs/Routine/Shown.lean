import HomeEnergy.Proofs.Routine.Open

/-!
# What is assured of a main routine

`Routine.Assured` speaks of a routine on a scene. It knows of tasks only which ones it has launched
and which of these have ended; what they do is relied on. In a schedule the tasks do run. A schedule
shows a scene (`Schedule.Shows`), and if the changes that tasks make, and those from outside, are
among what is relied on, then what is assured of the main routine is what comes about, however the
schedule goes on.

A main routine that has ended can be followed by another one (`Schedule.turnTo`), and once no task
is going on and the main routine has ended, all that happens comes from outside.

## Main results

* `Schedule.Drifts.assured` — what is assured of the main routine stays assured.
* `Schedule.Drifts.ended` — and holds when it has ended.
* `Schedule.Drifts.still` — when nothing goes on any more, nothing happens but from outside.
-/

namespace HomeEnergy

variable {σ α β : Type} {R others : σ → σ → Prop}

open Routine (Interference)

namespace Schedule

/-- What a scene shows of a schedule: the state, and of the tasks that have been launched which ones
are going on. No others are going on. -/
structure Shows (s : Schedule σ α) (c : Scene σ) : Prop where
  state : c.state = s.state
  gone : ∀ i, c.IsOver i ↔ s.isOver i = true
  begun : ∀ x ∈ c.spawned, ∀ t, s.tasks[x.task]? = some t → t.progress ≠ .dormant

/-- A scene in which all tasks have ended that are over in a schedule, with its state. -/
def seen (s : Schedule σ α) (c : Scene σ) : Scene σ where
  state := s.state
  spawned := c.spawned.map fun x =>
    if s.isOver x.task then { x with ended := x.ended.or (some .normal) } else x

theorem fading_seen (s : Schedule σ α) (c : Scene σ) :
    Fading c.spawned (s.seen c).spawned := by
  rw [Fading, seen, List.forall₂_map_right_iff]
  refine List.forall₂_same.2 fun x _ => ?_
  split
  · refine ⟨rfl, fun hx => ?_⟩
    obtain ⟨e, he⟩ := Option.isSome_iff_exists.1 hx
    rw [he, Option.some_or, ← he]
  · exact ⟨rfl, fun _ => rfl⟩

theorem isOver_seen {s : Schedule σ α} {c : Scene σ}
    (hover : ∀ i, c.IsOver i → s.isOver i = true) (i : Nat) :
    (s.seen c).IsOver i ↔ s.isOver i = true := by
  constructor
  · intro h
    by_contra hi
    apply hi
    apply hover
    -- What is going on in the schedule is in the new scene as it was in the old one.
    intro x hx htask
    have hentry : (if s.isOver x.task then { x with ended := x.ended.or (some .normal) } else x)
        = x := by
      rw [htask, if_neg hi]
    have hmem : x ∈ (s.seen c).spawned := by
      rw [← hentry]
      exact List.mem_map_of_mem hx
    exact h x hmem htask
  · intro hi y hy htask
    obtain ⟨x, _, rfl⟩ := List.mem_map.1 hy
    by_cases hx : s.isOver x.task = true
    · simp [hx]
    · simp only [hx] at htask
      exact absurd (htask ▸ hi) hx

/-- A scene that lags behind a schedule catches up. -/
theorem shows_seen {s : Schedule σ α} {c : Scene σ} (hstate : R c.state s.state)
    (hover : ∀ i, c.IsOver i → s.isOver i = true)
    (hbegun : ∀ x ∈ c.spawned, ∀ t, s.tasks[x.task]? = some t → t.progress ≠ .dormant) :
    ∃ c', Scene.Amid R c c' ∧ s.Shows c' := by
  refine ⟨s.seen c, ⟨hstate, fading_seen s c⟩, rfl, isOver_seen hover, ?_⟩
  intro y hy t ht
  obtain ⟨x, hx, rfl⟩ := List.mem_map.1 hy
  apply hbegun x hx t
  rw [← ht]
  split <;> rfl

theorem begun_of_follows {s s' : Schedule σ α} {c : Scene σ} (h : s.Shows c)
    (htasks : s.EachTask (Task.Follows R) s') :
    ∀ x ∈ c.spawned, ∀ t, s'.tasks[x.task]? = some t → t.progress ≠ .dormant := by
  intro x hx t' ht' hdormant
  obtain ⟨t, ht, hfollows⟩ := htasks.task ht'
  exact h.begun x hx t ht (hfollows.dormant hdormant)

/-- The tasks settle, and what is seen of them is what may happen around a routine. -/
theorem Shows.around {s s' : Schedule σ α} {c : Scene σ} (h : s.Shows c)
    (htasks : s.EachTask (Task.Settles R) s') (hstate : R s.state s'.state) :
    ∃ c', Scene.Amid R c c' ∧ s'.Shows c' := by
  refine shows_seen ?_ ?_ (begun_of_follows h (follows_of_settles htasks))
  · rw [h.state]
    exact hstate
  · intro i hi
    exact htasks.isOver ((h.gone i).1 hi)

/-- A task is launched. -/
theorem Shows.launch (ho : Interference R) {s : Schedule σ α} {c : Scene σ} (h : s.Shows c)
    (i : Nat) :
    ∃ c', Scene.Amid R (c.launch i) c' ∧
      (s.onTask i ({ · with progress := .beginning })).Shows c' := by
  refine shows_seen ?_ ?_ ?_
  · show R c.state s.state
    rw [h.state]
    exact ho.refl _
  · intro j hj
    have hne : i ≠ j := by
      rintro rfl
      have hlast := hj ⟨i, none⟩ (List.mem_append_right _ (by simp)) rfl
      cases hlast
    have hbefore : c.IsOver j := fun x hx htask => hj x (List.mem_append_left _ hx) htask
    simp only [Schedule.isOver, onTask_of_ne hne]
    exact (h.gone j).1 hbefore
  · intro x hx t ht
    rcases List.mem_append.1 hx with hx | hx
    · have hfollows :
          s.EachTask (Task.Follows R) (s.onTask i ({ · with progress := .beginning })) :=
        .onTask Task.interference_follows s i fun t _ => Task.follows_launch t
      exact begun_of_follows h hfollows x hx t ht
    · obtain rfl := List.mem_singleton.1 hx
      simp only [Schedule.onTask, List.getElem?_modify] at ht
      cases hu : s.tasks[i]? with
      | none => simp [hu] at ht
      | some u =>
          obtain rfl : { u with progress := .beginning } = t := by simpa [hu] using ht
          simp

/-! ## The main routine and the tasks -/

variable {step : Scene σ → Scene σ → Prop} {post : β → Scene σ → Prop}

/-- While the main routine runs, what is assured stays assured. -/
theorem runFor_assured (ho : Interference R) {s : Schedule σ α} {c : Scene σ} (limit : Nat)
    {p : Routine σ β} (hshows : s.Shows c) (hp : p.Assured (Scene.Amid R) step post c) :
    ∃ c', (runFor none limit s p).1.Shows c' ∧
      (runFor none limit s p).2.rest.Assured (Scene.Amid R) step post c' := by
  have ha := Scene.interference_amid ho
  induction limit generalizing s c p with
  | zero => exact ⟨c, hshows, hp⟩
  | succ n ih =>
      cases p with
      | done b => exact ⟨c, hshows, hp⟩
      | act change next =>
          obtain ⟨-, hnext⟩ := hp c (ha.refl c)
          rw [hshows.state] at hnext
          have hchanged : Schedule.Shows { s with state := change s.state } (c.change change) := by
            refine ⟨?_, hshows.gone, hshows.begun⟩
            show change c.state = change s.state
            rw [hshows.state]
          exact ih hchanged hnext
      | clock next => exact ih hshows (hp s.now)
      | sleep d next =>
          simp only [runFor]
          split
          · exact ih hshows hp
          · exact ⟨c, hshows, hp⟩
      | acquire next =>
          simp only [runFor]
          split
          · exact ⟨c, ⟨hshows.state, hshows.gone, hshows.begun⟩, hp⟩
          · exact ih ⟨hshows.state, hshows.gone, hshows.begun⟩ hp
      | release next =>
          have hgranted : s.EachTask (Task.Settles R) s.unlock :=
            unlock_eachTask Task.interference_settles Task.settles_grant s
          obtain ⟨c', hc', hunlocked⟩ :=
            hshows.around hgranted (by rw [unlock_state]; exact ho.refl _)
          exact ih hunlocked (Routine.Assured.after ha hc' hp)
      | launch i next =>
          obtain ⟨-, hnext⟩ := hp c (ha.refl c)
          obtain ⟨c', hc', hlaunched⟩ := hshows.launch ho i
          exact ih hlaunched (Routine.Assured.after ha hc' hnext)
      | cancel i next =>
          have hcancelled : s.EachTask (Task.Settles R)
              (s.onTask i ({ · with cancelled := true })) :=
            .onTask Task.interference_settles s i fun t _ => Task.settles_cancel t
          obtain ⟨c', hc', hasked⟩ := hshows.around hcancelled (ho.refl _)
          exact ih hasked (Routine.Assured.after ha hc' hp)
      | join i next =>
          simp only [runFor]
          split
          · next hover => exact ih hshows (hp c (ha.refl c) ((hshows.gone i).2 hover))
          · exact ⟨c, hshows, hp⟩

variable {post : α → Scene σ → Prop} {a b : Schedule σ α} {c : Scene σ}

theorem Kind.assured (ho : Interference R) (h : a.Kind R b) (hshows : a.Shows c)
    (hmain : a.main.rest.Assured (Scene.Amid R) step post c) :
    ∃ c', b.Shows c' ∧ b.main.rest.Assured (Scene.Amid R) step post c' := by
  have ha := Scene.interference_amid ho
  cases h with
  | main limit p here after =>
      subst after
      rw [here] at hmain
      obtain ⟨c', hafter, hrest⟩ := runFor_assured ho limit hshows hmain
      exact ⟨c', ⟨hafter.state, hafter.gone, hafter.begun⟩, hrest⟩
  | joined task p here gone after =>
      subst after
      rw [here] at hmain
      have hnext := hmain c (ha.refl c) ((hshows.gone task).2 gone)
      exact ⟨c, ⟨hshows.state, hshows.gone, hshows.begun⟩, hnext⟩
  | around tasks state main =>
      obtain ⟨c', hc', hafter⟩ := hshows.around tasks state
      refine ⟨c', hafter, ?_⟩
      rw [main.rest]
      exact Routine.Assured.after ha hc' hmain

/-- However a schedule goes on, its tasks keep what they are, and what is assured of its main
routine stays assured. -/
theorem Drifts.assured (ho : Interference R) (hothers : ∀ s t, others s t → R s t)
    (hquiet : a.Quiet R) (h : a.Drifts others b) (hshows : a.Shows c)
    (hmain : a.main.rest.Assured (Scene.Amid R) step post c) :
    a.EachTask (Task.Follows R) b ∧
      ∃ c', b.Shows c' ∧ b.main.rest.Assured (Scene.Amid R) step post c' := by
  induction h with
  | refl => exact ⟨.of_tasks_eq Task.interference_follows rfl, c, hshows, hmain⟩
  | tail _ hlast ih =>
      obtain ⟨hfollows, c', hc', hrest⟩ := ih
      have hkind := hlast.kind ho hothers (hfollows.quiet hquiet)
      exact ⟨hfollows.trans Task.interference_follows hkind.follows, hkind.assured ho hc' hrest⟩

/-- When the main routine has ended, what was assured of it holds. -/
theorem Drifts.ended (ho : Interference R) (hothers : ∀ s t, others s t → R s t)
    (hquiet : a.Quiet R) (h : a.Drifts others b) (hshows : a.Shows c)
    (hmain : a.main.rest.Assured (Scene.Amid R) step post c) {r : α} (hend : b.main = .ended r) :
    a.EachTask (Task.Follows R) b ∧ ∃ c', b.Shows c' ∧ post r c' := by
  obtain ⟨hfollows, c', hc', hrest⟩ := h.assured ho hothers hquiet hshows hmain
  rw [hend] at hrest
  exact ⟨hfollows, c', hc', hrest c' ((Scene.interference_amid ho).refl c')⟩

/-! ## One main routine after the other -/

/-- Behind the end of the main routine the tasks go on, and what is seen of them is what may happen
around a routine. -/
theorem Drifts.around (ho : Interference R) (hothers : ∀ s t, others s t → R s t)
    (hquiet : a.Quiet R) {r : α} (hmain : a.main = .ended r) (h : a.Drifts others b)
    (hshows : a.Shows c) :
    a.EachTask (Task.Follows R) b ∧ b.main = .ended r ∧
      ∃ c', Scene.Amid R c c' ∧ b.Shows c' := by
  have ha := Scene.interference_amid ho
  induction h with
  | refl => exact ⟨.of_tasks_eq Task.interference_follows rfl, hmain, c, ha.refl c, hshows⟩
  | tail _ hlast ih =>
      obtain ⟨hfollows, hended, c', hc', hseen⟩ := ih
      have hkind := hlast.kind ho hothers (hfollows.quiet hquiet)
      have hall := hfollows.trans Task.interference_follows hkind.follows
      cases hkind with
      | main limit p here _ => simp [hended] at here
      | joined task p here _ _ => simp [hended] at here
      | around tasks state main =>
          obtain ⟨c'', hc'', hafter⟩ := hseen.around tasks state
          exact ⟨hall, main.ended hended, c'', ha.trans hc' hc'', hafter⟩

/-- The main routine is followed by another one. -/
def turnTo (s : Schedule σ α) (p : Routine σ β) : Schedule σ β where
  now := s.now
  state := s.state
  main := .ready p
  tasks := s.tasks
  held := s.held
  queue := s.queue

theorem Shows.turnTo (h : a.Shows c) (p : Routine σ β) : (a.turnTo p).Shows c :=
  ⟨h.state, h.gone, h.begun⟩

theorem Quiet.turnTo (h : a.Quiet R) (p : Routine σ β) : (a.turnTo p).Quiet R := h

/-! ## When nothing goes on -/

/-- A way in which a schedule goes on in which no task is going on. -/
inductive Calm (others : σ → σ → Prop) (a : Schedule σ α) : Schedule σ α → Prop where
  /-- The main routine runs. -/
  | main (limit : Nat) (p : Routine σ α) (here : a.main = .ready p) :
      Calm others a { (runFor none limit a p).1 with main := (runFor none limit a p).2 }
  /-- The main routine sees that a task has ended. -/
  | joined (task : Nat) (p : Routine σ α) (here : a.main = .joining task p) :
      Calm others a { a with main := .ready p }
  /-- The clock moves. -/
  | clock (n : Nat) : Calm others a (a.advance n)
  /-- Others change the state. -/
  | outside (x : σ) (change : others a.state x) : Calm others a { a with state := x }

/-- What has ended does not begin again by itself. -/
theorem Stirs.calm (hover : ∀ i, a.isOver i = true) (h : a.Stirs others b) : a.Calm others b := by
  have hgone : ∀ {i : Nat} {t : Task σ}, a.tasks[i]? = some t → t.isOver ≠ false := by
    intro i t ht
    rw [← isOver_of_task ht, hover i]
    decide
  cases h with
  | main limit p here => exact .main limit p here
  | joined task p here _ => exact .joined task p here
  | begins i t here progress => exact absurd (by simp [Task.isOver, progress]) (hgone here)
  | runs limit i t p here progress => exact absurd (Task.going_of_inRound progress) (hgone here)
  | ends i t here progress => exact absurd (Task.going_of_inRound progress) (hgone here)
  | proceeds i t here progress =>
      rcases progress with progress | progress
      · exact absurd (by simp [Task.isOver, progress]) (hgone here)
      · exact absurd (by simp [Task.isOver, progress]) (hgone here)
  | panics i t p frees here progress =>
      exact absurd (Task.going_of_inRound progress) (hgone here)
  | clock n => exact .clock n
  | outside x change => exact .outside x change

theorem isOver_advance (n : Nat) {i : Nat} (h : a.isOver i = true) :
    (a.advance n).isOver i = true := by
  have hawake : a.EachTask (Task.Settles Eq) (a.advance n) := eachTask_advance a n
  exact hawake.isOver h

/-- If no task is going on and the main routine has ended, what happens comes from outside. -/
theorem Calm.still (hover : ∀ i, a.isOver i = true) {r : α} (hmain : a.main = .ended r)
    (h : a.Calm others b) :
    b.main = .ended r ∧ (∀ i, b.isOver i = true) ∧
      (b.state = a.state ∨ others a.state b.state) := by
  cases h with
  | main limit p here => simp [hmain] at here
  | joined task p here => simp [hmain] at here
  | clock n =>
      refine ⟨?_, fun i => isOver_advance n (hover i), .inl rfl⟩
      show a.main.awake _ = _
      rw [hmain]
      rfl
  | outside x change => exact ⟨hmain, hover, .inr change⟩

theorem Drifts.still (ho : Interference others) (hover : ∀ i, a.isOver i = true) {r : α}
    (hmain : a.main = .ended r) (h : a.Drifts others b) :
    b.main = .ended r ∧ (∀ i, b.isOver i = true) ∧ others a.state b.state := by
  induction h with
  | refl => exact ⟨hmain, hover, ho.refl _⟩
  | tail _ hlast ih =>
      obtain ⟨hbefore, hgone, hstate⟩ := ih
      obtain ⟨hafter, hgone', hlater⟩ := (hlast.calm hgone).still hgone hbefore
      refine ⟨hafter, hgone', ?_⟩
      rcases hlater with h | h
      · rw [h]
        exact hstate
      · exact ho.trans hstate h

end Schedule

end HomeEnergy
