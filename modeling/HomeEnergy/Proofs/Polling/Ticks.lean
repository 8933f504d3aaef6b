import HomeEnergy.Bench.Polling
import HomeEnergy.Proofs.Routine.Grid

/-!
# The ticks of pollers and updaters

Once its worker has been started, a poller or an updater goes round in a loop on the ticks of its
interval. Whatever its rounds do, however long they take, and whatever all others do meanwhile, its
rounds start on the grid of the interval, and those instants of the grid that a round outlasts are
dropped.

## Main results

* `Worker.start_begins` — the task of a started worker begins at once.
* `Ticking.step` — what each move of a loop makes of its timeline.
* `Repeats.rounds_on_grid` — where the rounds of a started poller or updater lie.
-/

namespace HomeEnergy

variable {σ α : Type}

/-- The tasks of pollers and updaters, with their intervals. -/
inductive Repeats : Body σ → Span → Prop where
  | poller {ρ : Type} (p : Poller σ ρ) : Repeats p.body p.interval
  | updater (u : Updater σ) : Repeats u.body u.interval

theorem Repeats.pace {body : Body σ} {interval : Span} (h : Repeats body interval) :
    body.pace = .ticking interval := by
  cases h with
  | poller p => rfl
  | updater u => rfl

/-- A worker that may start lets its task begin, and no time passes meanwhile. -/
theorem Worker.start_begins {part : Routine.Part σ Worker} {a : Schedule σ α} (me : Option Nat)
    {task : Nat} {t : Task σ} (ht : a.tasks[task]? = some t)
    (hready : (part.get a.state).state = .initialized) :
    (a.perform me (Worker.start part task)).2 = .ended (.ok ()) ∧
    (a.perform me (Worker.start part task)).1.now = a.now ∧
    (a.perform me (Worker.start part task)).1.tasks[task]?
      = some { t with progress := .beginning } := by
  have hok : (part.get a.state).startable = .ok () := Worker.startable_eq_ok_iff.2 hready
  have hrun : a.perform me (Worker.start part task)
      = ({ a.onTask task ({ · with progress := .beginning }) with
          state := part.modify ({ · with state := .running, task := some task }) a.state },
        .ended (.ok ())) := by
    unfold Worker.start
    simp only [bind, Routine.bind, Routine.look, Schedule.perform, id, hok]
    rfl
  rw [hrun]
  exact ⟨rfl, rfl, Schedule.onTask_self ht _⟩

/-! ## Where a loop is -/

/-- Where a loop is that began at an instant, with the rounds that it has been through. -/
inductive Ticking (start period : Nat) (l : Timeline) (now : Nat) (t : Task σ) : Prop where
  | beginning (here : t.progress = .beginning) (none : l = {}) (at_start : now = start)
  /-- It waits for its deadline, and has not waited too long. -/
  | between (here : t.progress = .between) (even : l.starts.length = l.ends.length)
      (ticker : t.ticker = ⟨period, l.deadline start period⟩) (rested : l.rest start ≤ now)
      (early : now ≤ l.coming start period)
  | inside (phase : Phase σ Unit) (here : t.progress = .inRound phase) (busy : t.busy = true)
      (odd : l.starts.length = l.ends.length + 1)
      (ticker : t.ticker = ⟨period, l.deadline start period⟩)
  /-- Its round has ended just now. -/
  | ended (here : t.progress = .inRound (.ended ())) (even : l.starts.length = l.ends.length)
      (ticker : t.ticker = ⟨period, l.deadline start period⟩) (just : now = l.rest start)

variable {start period now now' : Nat} {l : Timeline} {t t' : Task σ}

/-- Others act. -/
theorem Ticking.others (h : Ticking start period l now t) (hticker : t'.ticker = t.ticker)
    (hresumes : Schedule.Resumes t.progress t'.progress) : Ticking start period l now t' := by
  cases h with
  | beginning here hnone hstart =>
      have hbusy : t.busy = false := by simp [Task.busy, here]
      exact .beginning ((hresumes.progress_eq hbusy).trans here) hnone hstart
  | between here even ticker rested early =>
      have hbusy : t.busy = false := by simp [Task.busy, here]
      exact .between ((hresumes.progress_eq hbusy).trans here) even (hticker.trans ticker) rested
        early
  | inside phase here busy odd ticker =>
      have hbusy' : t'.busy = true := hresumes.busy_eq.trans busy
      obtain ⟨phase', here'⟩ := Task.phase_of_busy hbusy'
      exact .inside phase' here' hbusy' odd (hticker.trans ticker)
  | ended here even ticker just =>
      have hbusy : t.busy = false := by simp [Task.busy, here]
      exact .ended ((hresumes.progress_eq hbusy).trans here) even (hticker.trans ticker) just

/-- The clock moves, and it stops when the loop is to go on. -/
theorem Ticking.clock (h : Ticking start period l now t) (hwaiting : t.isReady now = false)
    (hnow : now ≤ now')
    (hwake : t.progress = .between → now' ≤ max now (Ticker.fireAt t.ticker.deadline))
    (hticker : t'.ticker = t.ticker) (hresumes : Schedule.Resumes t.progress t'.progress) :
    Ticking start period l now' t' := by
  cases h with
  | beginning here _ _ => simp [Task.isReady, here] at hwaiting
  | ended here _ _ _ => simp [Task.isReady, here] at hwaiting
  | between here even ticker rested early =>
      have hbusy : t.busy = false := by simp [Task.busy, here]
      have hstop := hwake here
      rw [ticker] at hstop
      refine .between ((hresumes.progress_eq hbusy).trans here) even (hticker.trans ticker) ?_ ?_
      · omega
      · unfold Timeline.coming at early ⊢
        show now' ≤ max (l.rest start) (Ticker.fireAt (l.deadline start period))
        have hstop' : now' ≤ max now (Ticker.fireAt (l.deadline start period)) := hstop
        omega
  | inside phase here busy odd ticker =>
      have hbusy' : t'.busy = true := hresumes.busy_eq.trans busy
      obtain ⟨phase', here'⟩ := Task.phase_of_busy hbusy'
      exact .inside phase' here' hbusy' odd (hticker.trans ticker)

/-- A tick that is due comes at the instant at which the next round is to start. -/
theorem Ticking.due (h : Ticking start period l now t)
    (here : t.progress = .between ∨ t.progress = .inRound (.ended ()))
    (hdue : t.ticker.isDue now = true) :
    l.starts.length = l.ends.length ∧ t.ticker = ⟨period, l.deadline start period⟩ ∧
      now = l.coming start period := by
  cases h with
  | beginning here' _ _ =>
      rw [here'] at here
      rcases here with h | h <;> cases h
  | inside phase here' busy _ _ =>
      rcases here with h | h <;> simp [Task.busy, h] at busy
  | between _ even ticker rested early =>
      rw [ticker, Ticker.isDue, decide_eq_true_eq] at hdue
      have hdue' : Ticker.fireAt (l.deadline start period) ≤ now := hdue
      refine ⟨even, ticker, ?_⟩
      unfold Timeline.coming at early ⊢
      omega
  | ended _ even ticker just =>
      rw [ticker, Ticker.isDue, decide_eq_true_eq] at hdue
      have hdue' : Ticker.fireAt (l.deadline start period) ≤ now := hdue
      refine ⟨even, ticker, ?_⟩
      unfold Timeline.coming
      omega

/-- The ticker goes on with the instant of the grid behind the start of the round. -/
theorem next_ticker (hperiod : Ticker.tolerance < period)
    (hticker : t.ticker = ⟨period, l.deadline start period⟩)
    (hnow : now = l.coming start period) :
    t.ticker.next now
      = ⟨period, Timeline.deadline start period { l with starts := l.starts ++ [now] }⟩ := by
  obtain ⟨n, hgrid⟩ := l.deadline_on_grid start period
  have hshown := Ticker.le_fireAt (l.deadline start period)
  have hle : l.deadline start period ≤ now := by
    unfold Timeline.coming at hnow
    omega
  have hnext := Ticker.nextDeadline_eq_gridAfter (t := ⟨period, l.deadline start period⟩)
    hperiod hgrid hle
  rw [hticker, Ticker.next, hnext, Timeline.deadline_of_start]

/-- What each move of a loop makes of its timeline. -/
theorem Ticking.step {i : Nat} {interval : Span} {a b : Schedule σ α}
    (hperiod : Ticker.tolerance < interval.nanos)
    (htimed : l.Timed start interval.nanos a.now)
    (h : Ticking start interval.nanos l a.now t) (hcancelled : t.cancelled = false)
    (hmove : Schedule.LoopMoves interval i a b t t') :
    (l.note t.busy t'.busy b.now).Timed start interval.nanos b.now ∧
      Ticking start interval.nanos (l.note t.busy t'.busy b.now) b.now t' := by
  cases hmove with
  | others _ hnow hticker hresumes =>
      rw [hresumes.busy_eq, Timeline.note_self, hnow]
      exact ⟨htimed, h.others hticker hresumes⟩
  | clock _ hwaiting hnow hwake hticker hresumes =>
      rw [hresumes.busy_eq, Timeline.note_self]
      exact ⟨htimed.mono hnow, h.clock hwaiting hnow hwake hticker hresumes⟩
  | begins here _ hnow hticker hprogress hwas hstill =>
      rw [hwas, hstill, Timeline.note_self, hnow]
      refine ⟨htimed, ?_⟩
      cases h with
      | beginning _ hnone hstart =>
          subst hnone
          rw [hstart] at hticker
          have hrest : Timeline.rest start {} = start := rfl
          refine .between hprogress rfl hticker (Nat.le_of_eq (hrest.trans hstart.symm)) ?_
          unfold Timeline.coming
          omega
      | between here' _ _ _ _ | inside _ here' _ _ _ | ended here' _ _ _ =>
          rw [here] at here'
          cases here'
  | starts here hdue _ hnow hticker hprogress hwas hbecomes =>
      obtain ⟨heven, hticker₀, hcoming⟩ := h.due here hdue
      rw [hwas, hbecomes, Timeline.note_start, hnow]
      refine ⟨htimed.starts heven hcoming, .inside _ hprogress hbecomes ?_ ?_⟩
      · show (l.starts ++ [a.now]).length = l.ends.length + 1
        rw [List.length_append, heven]
        rfl
      · exact hticker.trans (next_ticker hperiod hticker₀ hcoming)
  | runs p here _ hnow hticker hprogress hwas =>
      cases h with
      | inside _ _ _ hodd hticker₀ =>
          rw [hwas, hnow]
          cases hbusy : t'.busy with
          | true =>
              rw [Timeline.note_self]
              exact ⟨htimed, .inside _ hprogress hbusy hodd (hticker.trans hticker₀)⟩
          | false =>
              have hended := Task.ended_of_not_busy hprogress hbusy
              rw [hended] at hprogress
              rw [Timeline.note_end]
              refine ⟨htimed.ends, .ended hprogress ?_ (hticker.trans hticker₀) ?_⟩
              · show l.starts.length = (l.ends ++ [a.now]).length
                rw [List.length_append, hodd]
                rfl
              · exact (Timeline.rest_of_end start a.now l).symm
      | beginning here' _ _ | between here' _ _ _ _ | ended here' _ _ _ =>
          rw [here] at here'
          cases here'
  | waits here hdue _ hnow hticker hprogress hwas hstill =>
      rw [hwas, hstill, Timeline.note_self, hnow]
      refine ⟨htimed, ?_⟩
      cases h with
      | ended _ heven hticker₀ hjust =>
          refine .between hprogress heven (hticker.trans hticker₀) (Nat.le_of_eq hjust.symm) ?_
          unfold Timeline.coming
          omega
      | inside _ _ busy _ _ =>
          rw [hwas] at busy
          cases busy
      | beginning here' _ _ | between here' _ _ _ _ =>
          rw [here] at here'
          cases here'
  | stops hasked _ _ _ _ _ =>
      rcases hasked with htrue | hzero
      · rw [hcancelled] at htrue
        cases htrue
      · omega

/-- A loop that is where it should be has missed no round. -/
theorem Ticking.early (h : Ticking start period l now t) :
    l.starts.length = l.ends.length + 1 ∨
      (l.starts.length = l.ends.length ∧ now ≤ l.coming start period) := by
  cases h with
  | beginning _ hnone hstart =>
      subst hnone hstart
      exact .inr ⟨rfl, Nat.le_max_left _ _⟩
  | between _ even _ _ early => exact .inr ⟨even, early⟩
  | inside _ _ _ odd _ => exact .inl odd
  | ended _ even _ just => exact .inr ⟨even, Nat.le_trans (Nat.le_of_eq just) (Nat.le_max_left _ _)⟩

theorem Ticking.not_over (h : Ticking start period l now t) : t.isOver = false := by
  cases h with
  | beginning here _ _ | between here _ _ _ _ | inside _ here _ _ _ | ended here _ _ _ =>
      simp [Task.isOver, here]

/-- A loop that nobody has asked to stop is where it should be. -/
theorem ticking_of_course {i : Nat} {others : σ → σ → Prop} {interval : Span}
    {s s' : Schedule σ α} {t₀ : Task σ} (h : Schedule.Course i others s l s')
    (ht₀ : s.tasks[i]? = some t₀) (hbegin : t₀.progress = .beginning)
    (hpace : t₀.body.pace = .ticking interval) (hperiod : Ticker.tolerance < interval.nanos)
    (ht : s'.tasks[i]? = some t) (hasked : t.cancelled = false) :
    l.Timed s.now interval.nanos s'.now ∧ Ticking s.now interval.nanos l s'.now t := by
  have hinv := h.invariant ht₀ (by simp [hbegin]) hpace
    (motive := fun l b t => t.cancelled = false →
      l.Timed s.now interval.nanos b.now ∧ Ticking s.now interval.nanos l b.now t)
    (fun _ => ⟨⟨by simp, by simp, by simp, by simp⟩, .beginning hbegin rfl rfl⟩) ?_
  · obtain ⟨u, hu, -, -, hkept⟩ := hinv
    have hut : u = t := Option.some.inj (hu.symm.trans ht)
    subst hut
    exact hkept hasked
  intro l a b u u' _ _ _ ih _ _ hkeeps hmove hasked'
  have hcancelled : u.cancelled = false := by
    cases hc : u.cancelled with
    | false => rfl
    | true =>
        rw [hkeeps hc] at hasked'
        cases hasked'
  obtain ⟨htimed, hticking⟩ := ih hcancelled
  exact hticking.step hperiod htimed hcancelled hmove

/-- The rounds of a poller or an updater, from the instant at which its loop begins and as long as
nobody asks it to stop: the first starts one interval later, each other one at the end of the one
before it or on the grid behind its start, whichever is later. The clock shows an instant of the
grid on the first whole millisecond that is not before it, so behind a start on a whole millisecond
there is no delay at all. Every slot of the grid sees one start at most, and one behind the first
that sees none is covered by a single round. -/
theorem Repeats.rounds_on_grid {i ms : Nat} {others : σ → σ → Prop} {s s' : Schedule σ α}
    {l : Timeline} {t₀ t : Task σ} (hbody : Repeats t₀.body (.ofMillis ms)) (hms : 5 < ms)
    (ht₀ : s.tasks[i]? = some t₀) (hbegin : t₀.progress = .beginning)
    (hrun : Schedule.Course i others s l s') (ht : s'.tasks[i]? = some t)
    (hasked : t.cancelled = false) :
    l.OnGrid Ticker.fireAt s.now (Span.ofMillis ms).nanos s'.now ∧
    (Span.perMilli ∣ s.now → l.OnGrid id s.now (Span.ofMillis ms).nanos s'.now) ∧
    l.Slots s.now (Span.ofMillis ms).nanos s'.now ∧
    t.isOver = false := by
  have hnanos : (Span.ofMillis ms).nanos = ms * 1000000 := rfl
  have htolerance : Ticker.tolerance = 5000000 := rfl
  have hmilli : Span.perMilli = 1000000 := rfl
  have hperiod : Ticker.tolerance < (Span.ofMillis ms).nanos := by omega
  obtain ⟨htimed, hticking⟩ := ticking_of_course hrun ht₀ hbegin hbody.pace hperiod ht hasked
  have hgrid := htimed.on_grid hticking.early
  have hshown : ∀ x, Ticker.fireAt x < x + (Span.ofMillis ms).nanos := by
    intro x
    have hlt := Ticker.fireAt_lt x
    omega
  have hwhole : Span.perMilli ∣ (Span.ofMillis ms).nanos := Nat.dvd_mul_left _ _
  refine ⟨hgrid, fun hstart => hgrid.exact hstart hwhole, ?_, hticking.not_over⟩
  exact hgrid.slots Ticker.le_fireAt hshown (by omega)

/-! ## A loop with long rounds -/

open Bench (PollerBench)

/-- A poller with a round of 3 ms, one of 25 ms that fails, and one of 10 ms; the others take
none. -/
def slowMeter : PollerBench where
  worker := { name := "meter", state := .initialized }
  script := [⟨"ok", .ofMillis 3⟩, ⟨"timeout", .ofMillis 25⟩, ⟨"ok", .ofMillis 10⟩]
  inits := []
  prepares := []

/-- It is polled every 10 ms. -/
def slowPoller : Poller PollerBench (Option Nat) := PollerBench.poller "meter" (.ofMillis 10)

/-- Its task has not begun yet. -/
def slowEnrolled : Schedule PollerBench (Outcome Unit) where
  state := slowMeter
  main := .ended (.ok ())
  tasks := [{ body := slowPoller.body }]

/-- The poller has just been started. -/
def slowStart : Schedule PollerBench (Outcome Unit) :=
  (slowEnrolled.perform none slowPoller.start).1

/-- The second round covers a whole slot, the one from 30 ms to 40 ms, and delays the next ones. -/
def slowTicks : Timeline where
  starts := [10000000, 20000000, 45000000, 55000000, 60000000]
  ends := [13000000, 45000000, 55000000, 55000000, 60000000]

theorem rounds_on_grid_slow :
    ∃ s', Schedule.Course 0 (fun _ _ => True) slowStart slowTicks s' ∧
      slowTicks.OnGrid id 0 10000000 s'.now ∧ slowTicks.Slots 0 10000000 s'.now := by
  have hfollow : (Schedule.follow 0 22 {} slowStart).map
      (fun x => (x.1, x.2.tasks[0]?.map Task.cancelled)) = some (slowTicks, some false) := by
    decide +kernel
  obtain ⟨⟨l, s'⟩, hfollow, hseen⟩ := Option.map_eq_some_iff.1 hfollow
  obtain ⟨rfl, hasked⟩ := Prod.mk.inj hseen
  obtain ⟨t, ht, hasked⟩ := Option.map_eq_some_iff.1 hasked
  have hothers : Routine.Interference fun _ _ : PollerBench => True :=
    ⟨fun _ => trivial, fun _ _ => trivial⟩
  have hcourse : Schedule.Course 0 (fun _ _ => True) slowStart slowTicks s' :=
    Schedule.course_of_follow hothers .start hfollow
  have henrolled : slowEnrolled.tasks[0]? = some { body := slowPoller.body } := rfl
  have hready : (slowPoller.worker.get slowEnrolled.state).state = .initialized := rfl
  obtain ⟨-, -, hbegun⟩ := Worker.start_begins none henrolled hready
  obtain ⟨-, hexact, hslots, -⟩ :=
    Repeats.rounds_on_grid (Repeats.poller slowPoller) (by decide) hbegun rfl hcourse ht hasked
  exact ⟨s', hcourse, hexact (by decide), hslots⟩

end HomeEnergy
