import HomeEnergy.Module
import HomeEnergy.Proofs.Polling.Kept
import HomeEnergy.Proofs.Polling.Ticks
import HomeEnergy.Proofs.Worker.Stop

/-!
# Stopping pollers and updaters

A poller or an updater may be asked to stop at any instant: while its loop waits for a tick, in the
middle of a round, or when ticks are overdue. A round is either whole or not begun. The stop returns
when the loop has ended, and nothing of the module is left to act behind it.

## Main results

* `Module.Halts` — how things stand behind a request to stop.
* `Module.abort_halts` — so they stand for every poller and updater, whatever others do.
-/

namespace HomeEnergy

variable {σ : Type}

/-! ## Pollers and updaters -/

/-- The modules with a loop, and its interval. -/
inductive Repeating : Module σ → Span → Prop where
  | poller {ρ : Type} (p : Poller σ ρ) : Repeating p.toModule p.interval
  | updater (u : Updater σ) : Repeating u.toModule u.interval

namespace Repeating

variable {m : Module σ} {interval : Span}

theorem repeats (h : Repeating m interval) : Repeats m.body interval := by
  cases h with
  | poller p => exact .poller p
  | updater u => exact .updater u

theorem pace (h : Repeating m interval) : m.body.pace = .ticking interval := h.repeats.pace

theorem abort_eq (h : Repeating m interval) : m.abort = Worker.abort m.worker := by
  cases h with
  | poller p => rfl
  | updater u => rfl

theorem wait_eq (h : Repeating m interval) : m.wait = Worker.wait m.worker := by
  cases h with
  | poller p => rfl
  | updater u => rfl

end Repeating

namespace Module

open Schedule (Course Rounds Stage)

/-- The loop of a module has begun at `s` and is where it is at `a`, whatever has happened since.
The module runs, and now it is to be stopped. -/
structure StopAsked (m : Module σ) (i : Nat) (others : σ → σ → Prop) (s : Schedule σ Unit)
    (l : Timeline) (a : Schedule σ Unit) (t : Task σ) : Prop where
  begun : ∃ t₀, s.tasks[i]? = some t₀ ∧ t₀.progress = .beginning ∧ t₀.body = m.body
  course : Course i others s l a
  here : a.tasks[i]? = some t
  main : a.main = .ready m.abort
  running : (m.worker.get a.state).state = .running
  task : (m.worker.get a.state).task = some i

/-- How things stand at an instant `b` behind a request to stop, when the timeline has been `l` up
to the request, with the loop as `t`, and `l'` since then. -/
structure Halts (m : Module σ) (i : Nat) (others : σ → σ → Prop) (s : Schedule σ Unit)
    (l : Timeline) (t : Task σ) (l' : Timeline) (b : Schedule σ Unit) (t' : Task σ) : Prop where
  /-- No further round has started. -/
  unstarted : l'.starts = []
  /-- The round that the loop was in, if there was one, is still going on or has ended. -/
  finished : l'.ends.length + t'.busy.toNat = t.busy.toNat
  /-- All rounds are whole; the request has left no trace in them. -/
  whole : ∃ x, Rounds m.body.round others s.state (l.ends.length + l'.ends.length) x ∧
    Stage m.body.round others x b.state t'
  /-- The stop returns only when the loop has ended, and then there is no round in flight. -/
  joined : b.main = .ended () → t'.isOver = true ∧ t'.busy = false
  /-- While the loop is in no round, no time passes until the stop returns. It can go on, and each
  turn of the main routine or the loop takes it nearer to its return, at most four turns away. -/
  prompt : t'.busy = false → b.main ≠ .ended () → b.toGo i ≤ 4 ∧
    ∃ b', b.step? = some b' ∧ b'.now = b.now ∧
      (b.mainActs = true ∨ b.acting? = some i → b'.toGo i < b.toGo i) ∧
      (b.mainActs = false → b.acting? ≠ some i → b'.toGo i = b.toGo i)
  /-- When the stop returns, the module has stopped. -/
  stopped : ∀ b', b.step? = some b' → b.main ≠ .ended () → b'.main = .ended () →
    (m.worker.get b'.state).state = .stopped ∧ (m.worker.get b'.state).task = none
  /-- Behind the return the loop takes no turn, and whatever happens to the state is what others do
  to it. If they leave the worker of the module alone, stopping it again or waiting for it changes
  nothing. -/
  after : b.main = .ended () → ∀ (others' : σ → σ → Prop) (l'' : Timeline) (c : Schedule σ Unit),
    Routine.Interference others' → Course i others' b l'' c →
      l'' = {} ∧ c.acting? ≠ some i ∧ others' b.state c.state ∧
      ((m.worker.get b.state).state = .stopped → (m.worker.get b.state).task = none →
        (∀ x y, others' x y → m.worker.get y = m.worker.get x) →
        ∀ (d : Schedule σ Unit) (me : Option Nat), d.state = c.state →
          d.perform me m.abort = (d, .ended ()) ∧ d.perform me m.wait = (d, .ended ()))

variable {m : Module σ} {interval : Span} {i : Nat} {others : σ → σ → Prop}
variable {s a b : Schedule σ Unit} {l l' : Timeline} {t : Task σ}

/-- A loop that has begun is still the one of its module. -/
theorem StopAsked.loop (h : m.StopAsked i others s l a t) (hm : Repeating m interval) :
    t.body = m.body ∧ t.progress ≠ .idling := by
  obtain ⟨t₀, ht₀, hbegin, hbody⟩ := h.begun
  have hpace : t₀.body.pace = .ticking interval := by
    rw [hbody]
    exact hm.pace
  have hinv := h.course.invariant ht₀ (by simp [hbegin]) hpace (motive := fun _ _ _ => True)
    trivial fun _ _ _ _ _ _ _ _ _ _ _ _ _ => trivial
  obtain ⟨u, hu, hsame, hidle, -⟩ := hinv
  obtain rfl : u = t := Option.some.inj (hu.symm.trans h.here)
  exact ⟨hsame.trans hbody, hidle⟩

/-- What holds of the course of a stop. -/
theorem StopAsked.stopping (h : m.StopAsked i others s l a t) (hm : Repeating m interval)
    (hp : m.worker.Lawful) (hrest : Course i others a l' b) :
    ∃ t', b.tasks[i]? = some t' ∧ t'.body = m.body ∧ Schedule.Stopping m.worker i b t' ∧
      l'.starts = [] ∧ l'.ends.length + t'.busy.toNat = t.busy.toNat := by
  obtain ⟨hbody, hidle⟩ := h.loop hm
  have hpace : t.body.pace = .ticking interval := by
    rw [hbody]
    exact hm.pace
  have hmain : a.main = .ready (Worker.abort m.worker) := by
    rw [← hm.abort_eq]
    exact h.main
  have hinv := hrest.invariant h.here hidle hpace
    (motive := fun l' b t' => Schedule.Stopping m.worker i b t' ∧ l'.starts = [] ∧
      l'.ends.length + t'.busy.toNat = t.busy.toNat)
    ⟨.asking hmain h.running h.task, rfl, Nat.zero_add _⟩ ?_
  · obtain ⟨t', ht', hsame, -, hstopping, hstarts, hends⟩ := hinv
    exact ⟨t', ht', hsame.trans hbody, hstopping, hstarts, hends⟩
  rintro k c c' u u' hstep hu hu' ⟨hstopping, hstarts, hends⟩ - - hcancelled hmove
  obtain ⟨hstarts', hends'⟩ := hstopping.counts hp hu hstep hu' hmove k
  exact ⟨hstopping.step hp hu hstep hu' hcancelled hmove, hstarts'.trans hstarts,
    hends'.trans hends⟩

/-- A stop that has returned leaves a loop behind that has ended. -/
theorem over_of_returned {t' : Task σ} (h : Schedule.Stopping m.worker i b t')
    (hmain : b.main = .ended ()) : t'.isOver = true := by
  cases h with
  | asking main _ _ | joining main _ | leaving main _ _ =>
      rw [main] at hmain
      cases hmain
  | returned _ _ ended => exact ended

theorem halts_of_stopAsked (hm : Repeating m interval) (hp : m.worker.Lawful)
    (ho : Routine.Interference others) (h : m.StopAsked i others s l a t)
    (hrest : Course i others a l' b) :
    ∃ t', b.tasks[i]? = some t' ∧ m.Halts i others s l t l' b t' := by
  obtain ⟨t', ht', hbody, hstopping, hstarts, hends⟩ := h.stopping hm hp hrest
  have hpace : t'.body.pace = .ticking interval := by
    rw [hbody]
    exact hm.pace
  refine ⟨t', ht', hstarts, hends, ?_, ?_, ?_, ?_, ?_⟩
  · obtain ⟨t₀, ht₀, hbegin, hbody₀⟩ := h.begun
    have hpace₀ : t₀.body.pace = .ticking interval := by
      rw [hbody₀]
      exact hm.pace
    obtain ⟨u, x, hu, hrun, hstage⟩ :=
      Schedule.rounds_of_course ho (h.course.append hrest) ht₀ hbegin hpace₀
    obtain rfl : u = t' := Option.some.inj (hu.symm.trans ht')
    rw [hbody₀] at hrun hstage
    rw [Timeline.ends_append, List.length_append] at hrun
    exact ⟨x, hrun, hstage⟩
  · intro hmain
    have hover := over_of_returned hstopping hmain
    exact ⟨hover, Schedule.not_busy_of_over hover⟩
  · intro hbusy hmain
    exact ⟨b.toGo_le i, hstopping.prompt hp ht' hpace hbusy hmain⟩
  · intro b' hstep hbefore hafter
    rw [hstopping.returns hp ht' hstep hbefore hafter]
    exact ⟨rfl, rfl⟩
  · intro hmain others' l'' c ho' hlater
    have hover := over_of_returned hstopping hmain
    obtain ⟨hl, hacting, hothers⟩ := Schedule.still_of_over ho' hlater ht' hpace hover
    refine ⟨hl, hacting, hothers, ?_⟩
    intro hstate htask hspared d me hd
    have hsame : m.worker.get d.state = m.worker.get b.state := by
      rw [hd]
      exact hspared _ _ hothers
    rw [← hsame] at hstate htask
    rw [hm.abort_eq, hm.wait_eq]
    exact ⟨Worker.perform_abort_of_stopped hstate, Worker.perform_wait_of_stopped hp hstate htask⟩

open PollerWatch (Apart Kept poller)

variable {δ ρ : Type}

/-- What the rounds of a poller under watch leave behind that is being stopped, up to the one that
it was in when it was asked to. -/
theorem kept_of_stopAsked {source : Source δ ρ} {sink : Sink δ ρ} {write : ρ → Outcome Document}
    {task : Nat} {spared : String → Prop} {s a b : Schedule (PollerWatch δ ρ) Unit}
    {t : Task (PollerWatch δ ρ)}
    (h : (poller source sink write interval task).toModule.StopAsked i
      (Apart source.name spared) s l a t)
    (hrest : Course i (Apart source.name spared) a l' b) :
    ∃ t', b.tasks[i]? = some t' ∧ (t'.busy = false →
      ∃ news rs, rs.length = l.ends.length + t.busy.toNat ∧
        Kept source.name write spared s.state news rs b.state) := by
  have hp : (poller source sink write interval task).toModule.worker.Lawful :=
    ⟨fun _ _ => rfl, fun _ => rfl, fun _ _ _ => rfl⟩
  obtain ⟨t', ht', _, _, _, hends⟩ := h.stopping (.poller _) hp hrest
  refine ⟨t', ht', ?_⟩
  intro hbusy
  obtain ⟨t₀, ht₀, hbegin, hbody⟩ := h.begun
  obtain ⟨u, rs, w, hu, hcount, hrun, hstage⟩ := Poller.cycles_of_course
    PollerWatch.interference_apart (h.course.append hrest) ht₀ hbegin hbody
  obtain rfl : u = t' := Option.some.inj (hu.symm.trans ht')
  obtain ⟨news, hkept⟩ := PollerWatch.kept_of_cycles hrun
  rw [hstage.between hbusy] at hkept
  rw [hbusy] at hends
  rw [Timeline.ends_append, List.length_append] at hcount
  exact ⟨news, rs, hcount.trans (congrArg _ hends), hkept⟩

/-- Whenever a running poller or updater is to be stopped, `Module.Halts` says how things stand from
then on: no round starts any more, even if ticks are overdue, the round that it is in is finished as
if nobody had asked, the stop returns behind it and not before, and then for good. For a poller that
means that the query in flight is counted, and that its record, if there is one, is cached and
handed on: what the rounds leave behind is what that many undisturbed cycles leave behind. -/
theorem abort_halts (σ : Type) :
    (∀ (m : Module σ) (interval : Span) (i : Nat) (others : σ → σ → Prop)
      (s a b : Schedule σ Unit) (l l' : Timeline) (t : Task σ),
      Repeating m interval → m.worker.Lawful → Routine.Interference others →
      m.StopAsked i others s l a t → Course i others a l' b →
      ∃ t', b.tasks[i]? = some t' ∧ m.Halts i others s l t l' b t') ∧
    ∀ (δ ρ : Type) (source : Source δ ρ) (sink : Sink δ ρ) (write : ρ → Outcome Document)
      (interval : Span) (task i : Nat) (spared : String → Prop)
      (s a b : Schedule (PollerWatch δ ρ) Unit) (l l' : Timeline) (t : Task (PollerWatch δ ρ)),
      (poller source sink write interval task).toModule.StopAsked i
        (Apart source.name spared) s l a t →
      Course i (Apart source.name spared) a l' b →
      ∃ t', b.tasks[i]? = some t' ∧ (t'.busy = false →
        ∃ news rs, rs.length = l.ends.length + t.busy.toNat ∧
          Kept source.name write spared s.state news rs b.state) := by
  constructor
  · intro m interval i others s a b l l' t hm hp ho h hrest
    exact halts_of_stopAsked hm hp ho h hrest
  · intro δ ρ source sink write interval task i spared s a b l l' t h hrest
    exact kept_of_stopAsked h hrest

end Module

/-! ## A stop in the middle of a query -/

namespace PollerWatch

/-- A meter that takes two and a half seconds for each answer. -/
def sluggishMeter : Source (List (Outcome Nat)) Nat where
  name := "meter"
  init := pure (.ok ())
  query := do
    .pause (.ofMillis 2500)
    .changeTelling List.tail fun answers => answers.headD (.ok 0)

/-- It is polled each second. -/
def sluggishPoller : Poller (PollerWatch (List (Outcome Nat)) Nat) Nat :=
  poller sluggishMeter scriptedSink scriptedWrite (.ofMillis 1000) 0

/-- The poller is to be stopped after two and a half seconds. -/
def sluggishEnrolled : Schedule (PollerWatch (List (Outcome Nat)) Nat) Unit where
  state := { worker := { name := "meter", state := .initialized }, device := [.ok 7] }
  main := .sleeping 2500000000 sluggishPoller.abort
  tasks := [{ body := sluggishPoller.body }]

/-- It has just been started. -/
def sluggishStart : Schedule (PollerWatch (List (Outcome Nat)) Nat) Unit :=
  (sluggishEnrolled.perform none sluggishPoller.start).1

/-- The poller has begun its first query; the answer is still to come. -/
theorem sluggish_course : Schedule.Course 0 (Apart "meter" fun _ => True) sluggishStart
    ⟨[1000000000], []⟩ (sluggishStart.later 5) :=
  Schedule.course_later interference_apart .start (by decide +kernel)

/-- The stop asks the loop to end, the query is finished, and the loop and the stop end. -/
theorem sluggish_stop : ∃ b,
    Schedule.Course 0 (Apart "meter" fun _ => True) (sluggishStart.later 5) ⟨[], [3500000000]⟩ b ∧
      b.main = .ended () ∧ b.tasks[0]?.map Task.busy = some false := by
  have hasks : (sluggishStart.later 5).step? = some (sluggishStart.later 6) := rfl
  have hasked : Schedule.Course 0 (Apart "meter" fun _ => True) (sluggishStart.later 5) {}
      (sluggishStart.later 6) :=
    .quiet true .start hasks ⟨rfl, rfl, fun _ _ => rfl, fun _ => rfl⟩ (by decide +kernel)
      (by decide +kernel)
  have hfollow : (Schedule.follow 0 3 {} (sluggishStart.later 6)).map Prod.fst =
      some ⟨[], [3500000000]⟩ := by decide +kernel
  have hended := Schedule.course_later interference_apart hasked hfollow
  rw [Schedule.later_later] at hended
  have hjoins : (sluggishStart.later 9).step? = some (sluggishStart.later 10) := rfl
  have hjoined : Schedule.Course 0 (Apart "meter" fun _ => True) (sluggishStart.later 5)
      ⟨[], [3500000000]⟩ (sluggishStart.later 10) :=
    .quiet false hended hjoins ⟨rfl, rfl, fun _ _ => rfl, fun _ => rfl⟩ (by decide +kernel)
      (by decide +kernel)
  have hleaves : (sluggishStart.later 10).step? = some (sluggishStart.later 11) := rfl
  have hleft : Schedule.Course 0 (Apart "meter" fun _ => True) (sluggishStart.later 5)
      ⟨[], [3500000000]⟩ (sluggishStart.later 11) :=
    .quiet false hjoined hleaves ⟨rfl, rfl, fun _ _ => rfl, fun _ => rfl⟩ (by decide +kernel)
      (by decide +kernel)
  exact ⟨_, hleft, rfl, by decide +kernel⟩

/-- It is asked to stop while it waits for the answer to its first query, and the next tick is
overdue. The answer is cached and handed on, and only then the loop ends and the stop returns. -/
theorem abort_halts_in_flight :
    (sluggishStart.later 5).main = .ready sluggishPoller.abort ∧
    ∃ b t t', t.busy = true ∧ b.main = .ended () ∧
      sluggishPoller.toModule.Halts 0 (Apart "meter" fun _ => True) sluggishStart
        ⟨[1000000000], []⟩ t ⟨[], [3500000000]⟩ b t' ∧
      ∃ news rs, rs.length = 1 ∧
        Kept "meter" scriptedWrite (fun _ => True) sluggishStart.state news rs b.state := by
  obtain ⟨t, ht⟩ : ∃ t, (sluggishStart.later 5).tasks[0]? = some t := ⟨_, rfl⟩
  obtain ⟨b, hstop, hmain, hidle⟩ := sluggish_stop
  have hasked : sluggishPoller.toModule.StopAsked 0 (Apart "meter" fun _ => True) sluggishStart
      ⟨[1000000000], []⟩ (sluggishStart.later 5) t :=
    ⟨⟨_, rfl, rfl, rfl⟩, sluggish_course, ht, rfl, rfl, rfl⟩
  obtain ⟨hhalts, hkept⟩ := Module.abort_halts (PollerWatch (List (Outcome Nat)) Nat)
  obtain ⟨t', _, hhalt⟩ := hhalts _ _ _ _ _ _ _ _ _ _ (.poller sluggishPoller)
    ⟨fun _ _ => rfl, fun _ => rfl, fun _ _ _ => rfl⟩ interference_apart hasked hstop
  obtain ⟨u, hu, hleft⟩ := hkept _ _ _ _ _ _ _ _ _ _ _ _ _ _ _ hasked hstop
  have hbusy : t.busy = true := by
    have hseen : (sluggishStart.later 5).tasks[0]?.map Task.busy = some true := by decide +kernel
    rw [ht] at hseen
    exact Option.some.inj hseen
  rw [hu] at hidle
  obtain ⟨news, rs, hcount, hrow⟩ := hleft (Option.some.inj hidle)
  rw [hbusy] at hcount
  exact ⟨rfl, b, t, t', hbusy, hmain, hhalt, news, rs, hcount, hrow⟩

end PollerWatch

end HomeEnergy
