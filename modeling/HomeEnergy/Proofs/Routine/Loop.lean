import HomeEnergy.Proofs.Routine.Turns

/-!
# Loops on the ticks of a ticker

A task whose rounds start on ticks goes round in a loop: it waits for a tick, goes through a round,
and waits again. A course of such a loop is a run of the whole schedule, of any length, in which
nobody launches the task anew; a worker launches its task only once.

A timeline keeps the instants at which the rounds started and ended. A round starts when its tick is
taken. The clock stands still as long as a task can go on, so that is also the instant at which the
round takes its first step.

## Main results

* `Schedule.loop_of_moves` — what one step makes of a loop.
* `Schedule.Course.invariant` — what each move of a loop keeps holds along its course.
* `Schedule.Course` — a run of a schedule with the timeline of one of its tasks.
* `Schedule.Course.loop` — a loop stays one, and it counts the rounds that it goes through.
* `Schedule.follow` — the course of a schedule, computed.
-/

namespace HomeEnergy

variable {σ α : Type}

namespace Task

/-- Whether a task is in a round that has not ended. -/
def busy (t : Task σ) : Bool :=
  match t.progress with
  | .inRound (.ended _) => false
  | .inRound _ => true
  | _ => false

theorem phase_of_busy {t : Task σ} (h : t.busy = true) : ∃ phase, t.progress = .inRound phase := by
  cases hprogress : t.progress with
  | inRound phase => exact ⟨phase, rfl⟩
  | _ => simp [busy, hprogress] at h

/-- A round that a task is no longer busy with has ended. -/
theorem ended_of_not_busy {t : Task σ} {phase : Phase σ Unit} (h : t.progress = .inRound phase)
    (hbusy : t.busy = false) : phase = .ended () := by
  cases phase with
  | ended r => rfl
  | _ => simp [busy, h] at hbusy

/-! ## How a task proceeds -/

theorem proceed_of_cancelled {t : Task σ} {now : Nat} (h : t.cancelled = true) :
    t.proceed now = { t with progress := .over } := by
  unfold proceed
  rw [if_pos h]

theorem proceed_of_due {t : Task σ} {now : Nat} {period : Span} (hc : t.cancelled = false)
    (hp : t.body.pace = .ticking period) (hdue : t.ticker.isDue now = true) :
    t.proceed now
      = { t with progress := .inRound (.ready t.body.round), ticker := t.ticker.next now } := by
  simp [proceed, hc, hp, hdue]

theorem proceed_of_not_due {t : Task σ} {now : Nat} {period : Span} (hc : t.cancelled = false)
    (hp : t.body.pace = .ticking period) (hdue : t.ticker.isDue now = false) :
    t.proceed now = { t with progress := .between } := by
  simp [proceed, hc, hp, hdue]

/-- The first tick of a ticker with a period is not due at its start. -/
theorem not_due_start {period : Span} (h : 0 < period.nanos) (now : Nat) :
    (Ticker.start period now).isDue now = false := by
  have hle := Ticker.le_fireAt (now + period.nanos)
  have hlt : ¬ Ticker.fireAt (now + period.nanos) ≤ now := by omega
  exact decide_eq_false hlt

/-- A loop begins by waiting for its first tick. -/
theorem begin_of_ticking {t : Task σ} {now : Nat} {period : Span} (hc : t.cancelled = false)
    (hp : t.body.pace = .ticking period) (h : 0 < period.nanos) :
    t.begin now = { t with progress := .between, ticker := .start period now } := by
  have hne : period.nanos ≠ 0 := by omega
  have hdue := not_due_start h now
  simp only [begin, hp, if_neg hne]
  exact proceed_of_not_due (t := { t with ticker := .start period now }) hc hp hdue

/-- A loop whose ticker has no period is over before it has begun. -/
theorem begin_of_no_period {t : Task σ} {now : Nat} {period : Span}
    (hp : t.body.pace = .ticking period) (h : period.nanos = 0) :
    t.begin now = { t with progress := .over } := by
  simp only [begin, hp, if_pos h]

theorem begin_of_cancelled {t : Task σ} {now : Nat} {period : Span} (hc : t.cancelled = true)
    (hp : t.body.pace = .ticking period) (h : 0 < period.nanos) :
    t.begin now = { t with progress := .over, ticker := .start period now } := by
  have hne : period.nanos ≠ 0 := by omega
  simp only [begin, hp, if_neg hne]
  exact proceed_of_cancelled (t := { t with ticker := .start period now }) hc

theorem endRound_of_ticking {t : Task σ} {now : Nat} {period : Span}
    (hp : t.body.pace = .ticking period) : t.endRound now = t.proceed now := by
  simp [endRound, hp]

/-! ## What a task keeps -/

variable (t : Task σ) (now : Nat)

@[simp] theorem proceed_body : (t.proceed now).body = t.body := by
  unfold proceed
  repeat' split
  all_goals rfl

@[simp] theorem proceed_cancelled : (t.proceed now).cancelled = t.cancelled := by
  unfold proceed
  repeat' split
  all_goals rfl

@[simp] theorem begin_body : (t.begin now).body = t.body := by
  unfold begin
  repeat' split
  all_goals simp

@[simp] theorem begin_cancelled : (t.begin now).cancelled = t.cancelled := by
  unfold begin
  repeat' split
  all_goals simp

@[simp] theorem endRound_body : (t.endRound now).body = t.body := by
  unfold endRound
  split
  · rfl
  · exact t.proceed_body now

@[simp] theorem endRound_cancelled : (t.endRound now).cancelled = t.cancelled := by
  unfold endRound
  split
  · rfl
  · exact t.proceed_cancelled now

@[simp] theorem awake_body : (t.awake now).body = t.body := by
  unfold awake
  split <;> rfl

@[simp] theorem awake_cancelled : (t.awake now).cancelled = t.cancelled := by
  unfold awake
  split <;> rfl

end Task

namespace Schedule

/-! ## The moves of a loop -/

/-- What others and the clock make of a loop: it may go on with its round. -/
inductive Resumes : Progress σ → Progress σ → Prop where
  | same (progress : Progress σ) : Resumes progress progress
  | granted (p : Routine σ Unit) : Resumes (.inRound (.queued p)) (.inRound (.ready p))
  | woken (w : Nat) (p : Routine σ Unit) :
      Resumes (.inRound (.sleeping w p)) (.inRound (.ready p))

theorem Resumes.busy_eq {t t' : Task σ} (h : Resumes t.progress t'.progress) :
    t'.busy = t.busy := by
  obtain ⟨body, progress, cancelled, ticker⟩ := t
  obtain ⟨body', progress', cancelled', ticker'⟩ := t'
  cases h <;> rfl

/-- Between two rounds there is nothing to go on with. -/
theorem Resumes.progress_eq {t t' : Task σ} (h : Resumes t.progress t'.progress)
    (hbusy : t.busy = false) : t'.progress = t.progress := by
  obtain ⟨body, progress, cancelled, ticker⟩ := t
  obtain ⟨body', progress', cancelled', ticker'⟩ := t'
  cases h with
  | same _ => rfl
  | granted p => cases hbusy
  | woken w p => cases hbusy

theorem Resumes.isOver_eq {t t' : Task σ} (h : Resumes t.progress t'.progress) :
    t'.isOver = t.isOver := by
  obtain ⟨body, progress, cancelled, ticker⟩ := t
  obtain ⟨body', progress', cancelled', ticker'⟩ := t'
  cases h <;> rfl

theorem Resumes.idling {x y : Progress σ} (h : Resumes x y) (hy : y = .idling) : x = .idling := by
  cases h with
  | same _ => exact hy
  | granted _ => cases hy
  | woken _ _ => cases hy

/-- What a step makes of a loop that nobody launches anew. -/
inductive LoopMoves (period : Span) (i : Nat) (a b : Schedule σ α) (t t' : Task σ) : Prop where
  /-- Others act; they may give the lock to the loop. -/
  | others (acting : a.acting? ≠ some i) (now : b.now = a.now) (ticker : t'.ticker = t.ticker)
      (progress : Resumes t.progress t'.progress)
  /-- The clock moves, not past the next tick if the loop waits for it; the loop may wake. -/
  | clock (acting : a.acting? ≠ some i) (waiting : t.isReady a.now = false) (now : a.now ≤ b.now)
      (wake : t.progress = .between → b.now ≤ max a.now (Ticker.fireAt t.ticker.deadline))
      (ticker : t'.ticker = t.ticker) (progress : Resumes t.progress t'.progress)
  /-- The loop begins. -/
  | begins (here : t.progress = .beginning) (state : b.state = a.state) (now : b.now = a.now)
      (ticker : t'.ticker = .start period a.now) (progress : t'.progress = .between)
      (was : t.busy = false) (still : t'.busy = false) (unasked : t.cancelled = false)
  /-- The tick has come, and a round starts. -/
  | starts (here : t.progress = .between ∨ t.progress = .inRound (.ended ()))
      (due : t.ticker.isDue a.now = true) (state : b.state = a.state) (now : b.now = a.now)
      (ticker : t'.ticker = t.ticker.next a.now)
      (progress : t'.progress = .inRound (.ready t.body.round))
      (was : t.busy = false) (becomes : t'.busy = true) (unasked : t.cancelled = false)
  /-- The round goes on. -/
  | runs (p : Routine σ Unit) (here : t.progress = .inRound (.ready p))
      (state : b.state = (a.perform (some i) p).1.state) (now : b.now = a.now)
      (ticker : t'.ticker = t.ticker)
      (progress : t'.progress = .inRound (a.perform (some i) p).2) (was : t.busy = true)
  /-- The round has ended, and the next tick is still to come. -/
  | waits (here : t.progress = .inRound (.ended ())) (due : t.ticker.isDue a.now = false)
      (state : b.state = a.state) (now : b.now = a.now) (ticker : t'.ticker = t.ticker)
      (progress : t'.progress = .between) (was : t.busy = false) (still : t'.busy = false)
      (unasked : t.cancelled = false)
  /-- The loop ends, as it has been asked to, or as its ticker has no period. -/
  | stops (asked : t.cancelled = true ∨ period.nanos = 0) (state : b.state = a.state)
      (now : b.now = a.now) (progress : t'.progress = .over)
      (was : t.busy = false) (still : t'.busy = false)

theorem LoopMoves.not_idling {period : Span} {i : Nat} {a b : Schedule σ α} {t t' : Task σ}
    (h : LoopMoves period i a b t t') (hidle : t.progress ≠ .idling) : t'.progress ≠ .idling := by
  intro hidle'
  cases h with
  | others _ _ _ progress | clock _ _ _ _ _ progress =>
      exact hidle (progress.idling hidle')
  | begins _ _ _ _ progress _ _ | starts _ _ _ _ _ progress _ _ | runs _ _ _ _ _ progress _
  | waits _ _ _ _ _ progress _ _ | stops _ _ _ progress _ _ =>
      rw [progress] at hidle'
      cases hidle'

/-- A loop that has ended stays so. -/
theorem LoopMoves.isOver {period : Span} {i : Nat} {a b : Schedule σ α} {t t' : Task σ}
    (h : LoopMoves period i a b t t') (hover : t.isOver = true) : t'.isOver = true := by
  cases h with
  | others _ _ _ progress | clock _ _ _ _ _ progress => exact progress.isOver_eq.trans hover
  | begins here _ _ _ _ _ _ | runs _ here _ _ _ _ _ | waits here _ _ _ _ _ _ _ =>
      simp [Task.isOver, here] at hover
  | starts here _ _ _ _ _ _ _ =>
      rcases here with here | here
      · simp [Task.isOver, here] at hover
      · simp [Task.isOver, here] at hover
  | stops _ _ _ progress _ _ => simp [Task.isOver, progress]

/-- What a task does after a wait between two rounds. -/
theorem loop_of_proceed {period : Span} {i : Nat} {a b : Schedule σ α} {t : Task σ}
    (hp : t.body.pace = .ticking period)
    (here : t.progress = .between ∨ t.progress = .inRound (.ended ()))
    (hready : t.progress = .between → (t.cancelled || t.ticker.isDue a.now) = true)
    (hstate : b.state = a.state) (hnow : b.now = a.now) :
    LoopMoves period i a b t (t.proceed a.now) := by
  have hbusy : t.busy = false := by
    rcases here with h | h
    · simp [Task.busy, h]
    · simp [Task.busy, h]
  cases hc : t.cancelled with
  | true =>
      rw [Task.proceed_of_cancelled hc]
      exact .stops (.inl hc) hstate hnow rfl hbusy rfl
  | false =>
      cases hdue : t.ticker.isDue a.now with
      | true =>
          rw [Task.proceed_of_due hc hp hdue]
          exact .starts here hdue hstate hnow rfl rfl hbusy rfl hc
      | false =>
          rw [Task.proceed_of_not_due hc hp hdue]
          rcases here with hbetween | hended
          · have hpossible := hready hbetween
            rw [hc, hdue] at hpossible
            cases hpossible
          · exact .waits hended hdue hstate hnow rfl rfl hbusy rfl hc

/-- What a step makes of a task is, for a loop, one of the moves of a loop. -/
theorem loop_of_moves {period : Span} {i : Nat} {a b : Schedule σ α} {t t' : Task σ}
    (hp : t.body.pace = .ticking period) (hidle : t.progress ≠ .idling)
    (hnew : t'.progress = .beginning → t.progress = .beginning) (h : a.Moves i b t t') :
    LoopMoves period i a b t t' := by
  cases h with
  | others hacting hnow htouch =>
      refine .others hacting hnow htouch.ticker ?_
      rcases htouch.progress with hsame | hbegin | hgrant
      · rw [hsame]
        exact .same _
      · rw [hbegin, hnew hbegin]
        exact .same _
      · obtain ⟨p, hqueued, hready⟩ := hgrant
        rw [hqueued, hready]
        exact .granted p
  | clock hacting hwaiting _ hnow hwake hafter =>
      have hother : a.acting? ≠ some i := by simp [hacting]
      subst hafter
      refine .clock hother hwaiting hnow ?_ ?_ ?_
      · intro hbetween
        exact hwake _ (by simp [Task.wake?, hbetween])
      · unfold Task.awake
        split <;> rfl
      · cases hprogress : t.progress with
        | inRound phase =>
            cases phase with
            | sleeping w p =>
                simp only [Task.awake, hprogress, Phase.awake]
                by_cases hw : w ≤ b.now
                · rw [if_pos hw]
                  exact .woken w p
                · rw [if_neg hw]
                  exact .same _
            | _ =>
                simp only [Task.awake, hprogress, Phase.awake]
                exact .same _
        | _ =>
            simp only [Task.awake, hprogress]
            exact .same _
  | begins _ here hstate hnow hafter =>
      subst hafter
      have hbusy : t.busy = false := by simp [Task.busy, here]
      by_cases hzero : period.nanos = 0
      · rw [Task.begin_of_no_period hp hzero]
        exact .stops (.inr hzero) hstate hnow rfl hbusy rfl
      have hpos : 0 < period.nanos := by omega
      cases hc : t.cancelled with
      | true =>
          rw [Task.begin_of_cancelled hc hp hpos]
          exact .stops (.inl hc) hstate hnow rfl hbusy rfl
      | false =>
          rw [Task.begin_of_ticking hc hp hpos]
          exact .begins here hstate hnow rfl rfl hbusy rfl hc
  | runs p u _ here htouch hstate hnow hafter =>
      subst hafter
      have hbusy : t.busy = true := by simp [Task.busy, here]
      exact .runs p here hstate hnow htouch.ticker rfl hbusy
  | ends _ here hstate hnow hafter =>
      subst hafter
      rw [Task.endRound_of_ticking hp]
      refine loop_of_proceed hp (.inr here) ?_ hstate hnow
      intro hbetween
      rw [here] at hbetween
      cases hbetween
  | proceeds _ here hready hstate hnow hafter =>
      subst hafter
      rcases here with hbetween | hidling
      · refine loop_of_proceed hp (.inl hbetween) ?_ hstate hnow
        intro _
        simpa [Task.isReady, hbetween] using hready
      · exact absurd hidling hidle

/-- No step changes what a task does, or takes back that it has been asked to stop. -/
theorem Moves.keeps {i : Nat} {a b : Schedule σ α} {t t' : Task σ} (h : a.Moves i b t t') :
    t'.body = t.body ∧ (t.cancelled = true → t'.cancelled = true) := by
  cases h with
  | others _ _ htouch => exact ⟨htouch.body, htouch.cancelled⟩
  | clock _ _ _ _ _ hafter =>
      subst hafter
      exact ⟨t.awake_body _, fun h => (t.awake_cancelled _).trans h⟩
  | begins _ _ _ _ hafter =>
      subst hafter
      exact ⟨t.begin_body _, fun h => (t.begin_cancelled _).trans h⟩
  | runs p u _ _ htouch _ _ hafter =>
      subst hafter
      exact ⟨htouch.body, htouch.cancelled⟩
  | ends _ _ _ _ hafter =>
      subst hafter
      exact ⟨t.endRound_body _, fun h => (t.endRound_cancelled _).trans h⟩
  | proceeds _ _ _ _ _ hafter =>
      subst hafter
      exact ⟨t.proceed_body _, fun h => (t.proceed_cancelled _).trans h⟩

end Schedule

/-! ## Timelines -/

/-- The instants at which the rounds of a task started and ended, in their order. -/
structure Timeline where
  starts : List Nat := []
  ends : List Nat := []
deriving DecidableEq, Repr

/-- A round starts when a task becomes busy, and ends when it is no longer. -/
def Timeline.note (l : Timeline) (was is : Bool) (now : Nat) : Timeline where
  starts := if !was && is then l.starts ++ [now] else l.starts
  ends := if was && !is then l.ends ++ [now] else l.ends

@[simp] theorem Timeline.note_self (l : Timeline) (was : Bool) (now : Nat) :
    l.note was was now = l := by
  cases was <;> rfl

@[simp] theorem Timeline.note_start (l : Timeline) (now : Nat) :
    l.note false true now = { l with starts := l.starts ++ [now] } := rfl

@[simp] theorem Timeline.note_end (l : Timeline) (now : Nat) :
    l.note true false now = { l with ends := l.ends ++ [now] } := rfl

/-- One timeline behind the other. -/
instance : Append Timeline where
  append l l' := ⟨l.starts ++ l'.starts, l.ends ++ l'.ends⟩

theorem Timeline.append_empty (l : Timeline) : l ++ ({} : Timeline) = l := by
  show (⟨l.starts ++ [], l.ends ++ []⟩ : Timeline) = l
  rw [List.append_nil, List.append_nil]

theorem Timeline.append_note (l l' : Timeline) (was is : Bool) (now : Nat) :
    (l ++ l').note was is now = l ++ l'.note was is now := by
  cases was with
  | true =>
      cases is with
      | true => rfl
      | false => exact congrArg (Timeline.mk _) (List.append_assoc ..)
  | false =>
      cases is with
      | true => exact congrArg (Timeline.mk · _) (List.append_assoc ..)
      | false => rfl

theorem Timeline.ends_append (l l' : Timeline) : (l ++ l').ends = l.ends ++ l'.ends := rfl

namespace Schedule

/-- A loop that has been asked to stop starts no round, and ends at most the one that it is in. -/
theorem LoopMoves.asked {period : Span} {i : Nat} {a b : Schedule σ α} {t t' : Task σ}
    (h : LoopMoves period i a b t t') (hasked : t.cancelled = true) (l : Timeline) :
    (l.note t.busy t'.busy b.now).starts = l.starts ∧
      (l.note t.busy t'.busy b.now).ends.length + t'.busy.toNat
        = l.ends.length + t.busy.toNat := by
  cases h with
  | others _ _ _ progress | clock _ _ _ _ _ progress =>
      rw [progress.busy_eq, Timeline.note_self]
      exact ⟨rfl, rfl⟩
  | begins _ _ _ _ _ _ _ unasked | starts _ _ _ _ _ _ _ _ unasked
  | waits _ _ _ _ _ _ _ _ unasked =>
      rw [hasked] at unasked
      cases unasked
  | runs p _ _ _ _ _ was =>
      rw [was]
      cases hbusy : t'.busy with
      | true =>
          rw [Timeline.note_self]
          exact ⟨rfl, rfl⟩
      | false =>
          rw [Timeline.note_end, List.length_append]
          exact ⟨rfl, rfl⟩
  | stops _ _ _ _ was still =>
      rw [was, still, Timeline.note_self]
      exact ⟨rfl, rfl⟩

/-- A run of a schedule in which nobody launches a task anew and others change the state in given
ways only, with the timeline of that task. -/
inductive Course (i : Nat) (others : σ → σ → Prop) (s : Schedule σ α) :
    Timeline → Schedule σ α → Prop where
  | start : Course i others s {} s
  | step {l : Timeline} {a b : Schedule σ α} {t t' : Task σ} (before : Course i others s l a)
      (step : a.step? = some b) (amid : a.acting? ≠ some i → others a.state b.state)
      (here : a.tasks[i]? = some t) (after : b.tasks[i]? = some t')
      (anew : t'.progress = .beginning → t.progress = .beginning) :
      Course i others s (l.note t.busy t'.busy b.now) b

/-- One run behind the other. -/
theorem Course.append {i : Nat} {others : σ → σ → Prop} {s a b : Schedule σ α} {l l' : Timeline}
    (h : Course i others s l a) (h' : Course i others a l' b) : Course i others s (l ++ l') b := by
  induction h' with
  | start =>
      rw [Timeline.append_empty]
      exact h
  | step _ step amid here after anew ih =>
      rw [← Timeline.append_note]
      exact .step ih step amid here after anew

/-- What holds of a loop, and is kept by each of its moves, holds along its course. -/
theorem Course.invariant {i : Nat} {others : σ → σ → Prop} {s s' : Schedule σ α} {l : Timeline}
    {t₀ : Task σ} {period : Span} (h : Course i others s l s') (ht₀ : s.tasks[i]? = some t₀)
    (hidle₀ : t₀.progress ≠ .idling) (hp : t₀.body.pace = .ticking period)
    {motive : Timeline → Schedule σ α → Task σ → Prop}
    (start : motive {} s t₀)
    (step : ∀ l a b t t', a.step? = some b → a.tasks[i]? = some t → b.tasks[i]? = some t' →
      motive l a t → t.body = t₀.body → (a.acting? ≠ some i → others a.state b.state) →
      (t.cancelled = true → t'.cancelled = true) →
      LoopMoves period i a b t t' → motive (l.note t.busy t'.busy b.now) b t') :
    ∃ t, s'.tasks[i]? = some t ∧ t.body = t₀.body ∧ t.progress ≠ .idling ∧ motive l s' t := by
  induction h with
  | start => exact ⟨t₀, ht₀, rfl, hidle₀, start⟩
  | @step l a b t t' _ hstep hamid hhere hafter hanew ih =>
      obtain ⟨u, hu, hbody, hidle, hmotive⟩ := ih
      have hut : t = u := Option.some.inj (hhere.symm.trans hu)
      subst hut
      obtain ⟨u', hu', hmoves⟩ := step_task hstep hhere
      have hut' : t' = u' := Option.some.inj (hafter.symm.trans hu')
      subst hut'
      have hpace : t.body.pace = .ticking period := by
        rw [hbody]
        exact hp
      have hloop := loop_of_moves hpace hidle hanew hmoves
      obtain ⟨hbody', hcancelled⟩ := hmoves.keeps
      refine ⟨t', hafter, hbody'.trans hbody, ?_, ?_⟩
      · exact hloop.not_idling hidle
      · exact step l a b t t' hstep hhere hafter hmotive hbody hamid hcancelled hloop

/-- Each round of a loop that has started has ended, up to the one that the loop is in; and a loop
that has ended has been asked to. -/
theorem Course.loop {i : Nat} {others : σ → σ → Prop} {s s' : Schedule σ α} {l : Timeline}
    {t₀ : Task σ} {period : Span} (h : Course i others s l s') (ht₀ : s.tasks[i]? = some t₀)
    (hbegin : t₀.progress = .beginning) (hp : t₀.body.pace = .ticking period) :
    ∃ t, s'.tasks[i]? = some t ∧ t.body = t₀.body ∧
      l.starts.length = l.ends.length + t.busy.toNat ∧
      (t.isOver = true → t.cancelled = true ∨ period.nanos = 0) := by
  have hinv := h.invariant ht₀ (by simp [hbegin]) hp
    (motive := fun l _ t => l.starts.length = l.ends.length + t.busy.toNat ∧
      (t.isOver = true → t.cancelled = true ∨ period.nanos = 0))
    ⟨by simp [Task.busy, hbegin], by simp [Task.isOver, hbegin]⟩ ?_
  · obtain ⟨t, ht, hbody, -, hcount, hover⟩ := hinv
    exact ⟨t, ht, hbody, hcount, hover⟩
  intro l a b t t' _ _ _ ih _ _ hcancelled hmove
  obtain ⟨hcount, hover⟩ := ih
  cases hmove with
  | others _ _ _ progress | clock _ _ _ _ _ progress =>
      rw [progress.busy_eq, progress.isOver_eq, Timeline.note_self]
      exact ⟨hcount, fun h => (hover h).imp_left hcancelled⟩
  | begins _ _ _ _ progress hwas hstill =>
      rw [hwas, hstill, Timeline.note_self]
      rw [hwas] at hcount
      exact ⟨hcount, by simp [Task.isOver, progress]⟩
  | starts _ _ _ _ _ progress hwas hbecomes =>
      rw [hwas, hbecomes, Timeline.note_start]
      rw [hwas] at hcount
      exact ⟨by simpa using hcount, by simp [Task.isOver, progress]⟩
  | runs p _ _ _ _ progress hwas =>
      rw [hwas] at hcount ⊢
      refine ⟨?_, by simp [Task.isOver, progress]⟩
      cases hbusy : t'.busy with
      | true => simpa using hcount
      | false => simpa using hcount
  | waits _ _ _ _ _ progress hwas hstill =>
      rw [hwas, hstill, Timeline.note_self]
      rw [hwas] at hcount
      exact ⟨hcount, by simp [Task.isOver, progress]⟩
  | stops asked _ _ _ hwas hstill =>
      rw [hwas, hstill, Timeline.note_self]
      rw [hwas] at hcount
      exact ⟨hcount, fun _ => asked.imp_left hcancelled⟩

/-! ## Courses, computed -/

/-- Whether nobody but a task acts, and nobody launches it anew. -/
def undisturbed (a : Schedule σ α) (i : Nat) (t t' : Task σ) : Bool :=
  (a.acting? == some i || (!a.mainActs && a.firstReady?.isNone)) &&
    match t.progress, t'.progress with
    | .beginning, _ => true
    | _, .beginning => false
    | _, _ => true

/-- The course of a schedule in which one task acts alone, some steps long. -/
def follow (i : Nat) : Nat → Timeline → Schedule σ α → Option (Timeline × Schedule σ α)
  | 0, l, s => some (l, s)
  | n + 1, l, a => do
    let b ← a.step?
    let t ← a.tasks[i]?
    let t' ← b.tasks[i]?
    if a.undisturbed i t t' then follow i n (l.note t.busy t'.busy b.now) b else none

/-- If the task does not take the turn, the clock moves, and that does not change the state. -/
theorem state_of_undisturbed {a b : Schedule σ α} {i : Nat} {t t' : Task σ}
    (hu : a.undisturbed i t t' = true) (hother : a.acting? ≠ some i) (h : a.step? = some b) :
    b.state = a.state := by
  have hclock : a.mainActs = false ∧ a.firstReady? = none := by
    simpa [undisturbed, hother] using (Bool.and_eq_true_iff.1 hu).1
  obtain ⟨hmain, hfirst⟩ := hclock
  cases goes_of_step h with
  | main p hacts _ => simp [hmain] at hacts
  | joined p hacts _ => simp [hmain] at hacts
  | task j u hacting _ _ _ => simp [acting?, hmain, hfirst] at hacting
  | clock n _ _ _ hb =>
      subst hb
      rfl

theorem beginning_of_undisturbed {a : Schedule σ α} {i : Nat} {t t' : Task σ}
    (hu : a.undisturbed i t t' = true) (h : t'.progress = .beginning) :
    t.progress = .beginning := by
  have hlaunch := (Bool.and_eq_true_iff.1 hu).2
  rw [h] at hlaunch
  cases hprogress : t.progress with
  | beginning => rfl
  | _ => simp [hprogress] at hlaunch

theorem course_of_follow {i : Nat} {others : σ → σ → Prop} (ho : Routine.Interference others)
    {s a s' : Schedule σ α} {n : Nat} {l l' : Timeline} (h : Course i others s l a)
    (hfollow : follow i n l a = some (l', s')) : Course i others s l' s' := by
  induction n generalizing l a with
  | zero =>
      simp only [follow, Option.some.injEq, Prod.mk.injEq] at hfollow
      obtain ⟨rfl, rfl⟩ := hfollow
      exact h
  | succ n ih =>
      simp only [follow, Option.bind_eq_bind, Option.bind_eq_some_iff] at hfollow
      obtain ⟨b, hb, t, ht, t', ht', hrest⟩ := hfollow
      by_cases hu : a.undisturbed i t t' = true
      · rw [if_pos hu] at hrest
        refine ih (.step h hb ?_ ht ht' ?_) hrest
        · intro hother
          rw [state_of_undisturbed hu hother hb]
          exact ho.refl a.state
        · exact beginning_of_undisturbed hu
      · rw [if_neg hu] at hrest
        cases hrest

/-- A schedule some steps later, or when it can go no further. -/
def later (s : Schedule σ α) : Nat → Schedule σ α
  | 0 => s
  | n + 1 => (s.later n).step?.getD (s.later n)

theorem later_of_step {s b : Schedule σ α} (h : s.step? = some b) (n : Nat) :
    b.later n = s.later (n + 1) := by
  induction n with
  | zero => simp [later, h]
  | succ n ih =>
      show (b.later n).step?.getD (b.later n) = (s.later (n + 1)).step?.getD (s.later (n + 1))
      rw [ih]

theorem later_later (s : Schedule σ α) (m n : Nat) : (s.later m).later n = s.later (m + n) := by
  induction n with
  | zero => rfl
  | succ n ih =>
      show ((s.later m).later n).step?.getD ((s.later m).later n) = s.later (m + n + 1)
      rw [ih]
      rfl

theorem later_of_follow {i n : Nat} {a s' : Schedule σ α} {l l' : Timeline}
    (h : follow i n l a = some (l', s')) : s' = a.later n := by
  induction n generalizing l a with
  | zero =>
      simp only [follow, Option.some.injEq, Prod.mk.injEq] at h
      exact h.2.symm
  | succ n ih =>
      simp only [follow, Option.bind_eq_bind, Option.bind_eq_some_iff] at h
      obtain ⟨b, hb, t, _, t', _, hrest⟩ := h
      split at hrest
      · rw [ih hrest, later_of_step hb]
      · cases hrest

/-- The course of a schedule in which one task acts alone, from what its timeline shows. -/
theorem course_later {i n : Nat} {others : σ → σ → Prop} (ho : Routine.Interference others)
    {s a : Schedule σ α} {l l' : Timeline} (h : Course i others s l a)
    (hfollow : (follow i n l a).map Prod.fst = some l') : Course i others s l' (a.later n) := by
  obtain ⟨⟨k, s'⟩, hcourse, hk⟩ := Option.map_eq_some_iff.1 hfollow
  obtain rfl : k = l' := hk
  have hs' := later_of_follow hcourse
  rw [← hs']
  exact course_of_follow ho h hcourse

/-- A step in which a task neither begins a round nor ends one, nor is launched. -/
theorem Course.quiet {i : Nat} {others : σ → σ → Prop} {s a b : Schedule σ α} {l : Timeline}
    (busy : Bool) (h : Course i others s l a) (hstep : a.step? = some b)
    (hamid : others a.state b.state) (hwas : a.tasks[i]?.map Task.busy = some busy)
    (his : b.tasks[i]?.map (fun t => (t.busy, t.progress matches .beginning))
      = some (busy, false)) : Course i others s l b := by
  obtain ⟨t, ht, hbusy⟩ := Option.map_eq_some_iff.1 hwas
  obtain ⟨t', ht', hseen⟩ := Option.map_eq_some_iff.1 his
  obtain ⟨hbusy', hbegins⟩ := Prod.mk.inj hseen
  have hnext := Course.step h hstep (fun _ => hamid) ht ht' ?_
  · rw [hbusy, hbusy', Timeline.note_self] at hnext
    exact hnext
  · intro hbegin
    rw [hbegin] at hbegins
    cases hbegins

end Schedule

end HomeEnergy
