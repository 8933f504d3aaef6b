import HomeEnergy.Proofs.Routine.Loop

/-!
# The rounds of a loop

What a loop does to the state is a row of whole rounds, with others acting in between. A round that
the loop is in can only go on to what the whole round may lead to from where it has started, so that
no round is ever cut short or begun in the middle.

## Main results

* `Schedule.Rounds` — a row of whole rounds.
* `Schedule.rounds_of_course` — a loop goes through whole rounds, as many as its timeline has ends.
-/

namespace HomeEnergy.Schedule

variable {σ α : Type}

/-- A row of successive rounds, amid others, and the state after them. -/
inductive Rounds (round : Routine σ Unit) (others : σ → σ → Prop) (s : σ) : Nat → σ → Prop where
  | none {s' : σ} (amid : others s s') : Rounds round others s 0 s'
  | one {n : Nat} {s' s'' : σ} (before : Rounds round others s n s')
      (whole : round.EndsAmid others s' () s'') : Rounds round others s (n + 1) s''

variable {round : Routine σ Unit} {others : σ → σ → Prop} {s s' s'' : σ} {n : Nat}

/-- Others may act after a row of rounds. -/
theorem Rounds.after (ho : Routine.Interference others) (h : Rounds round others s n s')
    (hamid : others s' s'') : Rounds round others s n s'' := by
  cases h with
  | none hbefore => exact .none (ho.trans hbefore hamid)
  | one hbefore hround => exact .one hbefore (hround.after ho hamid)

/-- Where a loop is: between two rounds, or in one that began in a certain state and can only go on
to what the whole round may lead to from there. -/
structure Stage (round : Routine σ Unit) (others : σ → σ → Prop) (s s' : σ) (t : Task σ) :
    Prop where
  between : t.busy = false → s = s'
  inside : ∀ phase, t.progress = .inRound phase → t.busy = true → ∀ u s'',
    phase.EndsAmid others s' u s'' → round.EndsAmid others s u s''

/-- Between two rounds there is nothing to go on with. -/
theorem stage_between {t : Task σ} (h : t.busy = false) (hs : s = s') :
    Stage round others s s' t := by
  refine ⟨fun _ => hs, ?_⟩
  intro phase _ hbusy
  rw [h] at hbusy
  cases hbusy

/-- In a round there is something to go on with. -/
theorem stage_inside {t : Task σ} {phase : Phase σ Unit} (hphase : t.progress = .inRound phase)
    (hbusy : t.busy = true)
    (h : ∀ u s'', phase.EndsAmid others s' u s'' → round.EndsAmid others s u s'') :
    Stage round others s s' t := by
  refine ⟨fun hfalse => ?_, ?_⟩
  · rw [hbusy] at hfalse
    cases hfalse
  · intro phase' hphase' _
    rw [hphase] at hphase'
    cases hphase'
    exact h

/-- Others act, or the clock moves. -/
theorem Stage.amid (ho : Routine.Interference others) {t t' : Task σ}
    (h : Stage round others s s' t) (hbusy : t.busy = true)
    (hresumes : Resumes t.progress t'.progress) (hamid : others s' s'') :
    Stage round others s s'' t' := by
  have hbusy' : t'.busy = true := hresumes.busy_eq.trans hbusy
  obtain ⟨phase', hphase'⟩ := Task.phase_of_busy hbusy'
  refine stage_inside hphase' hbusy' ?_
  intro u x hends
  have hends' := hends.before ho hamid
  generalize hprogress : t.progress = progress at hresumes
  rw [hphase'] at hresumes
  cases hresumes with
  | same _ => exact h.inside phase' hprogress hbusy u x hends'
  | granted q => exact h.inside (.queued q) hprogress hbusy u x hends'
  | woken w q => exact h.inside (.sleeping w q) hprogress hbusy u x hends'

/-- The loop goes on with its round until it has to wait. -/
theorem Stage.perform (ho : Routine.Interference others) {a : Schedule σ α} {i : Nat} {t : Task σ}
    {q : Routine σ Unit} (h : Stage round others s a.state t)
    (here : t.progress = .inRound (.ready q)) (u : Unit) (s'' : σ)
    (hends : (a.perform (some i) q).2.EndsAmid others (a.perform (some i) q).1.state u s'') :
    round.EndsAmid others s u s'' := by
  have hbusy : t.busy = true := by simp [Task.busy, here]
  have hround := h.inside (.ready q) here hbusy u s''
  exact hround (perform_endsAmid ho a (some i) q hends)

/-- What a loop that is in no round has been through. -/
theorem stage_of_not_busy {a a' : Schedule σ α} {l : Timeline} {t t' : Task σ}
    (hrun : Rounds round others s l.ends.length s') (hstage : Stage round others s' a.state t)
    (hbusy : t.busy = false) (hbusy' : t'.busy = false) (hstate : a'.state = a.state) :
    ∃ s', Rounds round others s (l.note t.busy t'.busy a'.now).ends.length s' ∧
      Stage round others s' a'.state t' := by
  have hs : s' = a.state := hstage.between hbusy
  rw [hbusy, hbusy', Timeline.note_self]
  exact ⟨s', hrun, stage_between hbusy' (hs.trans hstate.symm)⟩

/-- A loop goes through whole rounds, amid all that others do. -/
theorem rounds_of_course (ho : Routine.Interference others) {i : Nat} {a a' : Schedule σ α}
    {l : Timeline} {t₀ : Task σ} {period : Span} (h : Course i others a l a')
    (ht₀ : a.tasks[i]? = some t₀) (hbegin : t₀.progress = .beginning)
    (hpace : t₀.body.pace = .ticking period) :
    ∃ t s, a'.tasks[i]? = some t ∧ Rounds t₀.body.round others a.state l.ends.length s ∧
      Stage t₀.body.round others s a'.state t := by
  have hidle : t₀.busy = false := by simp [Task.busy, hbegin]
  have hinv := h.invariant ht₀ (by simp [hbegin]) hpace
    (motive := fun l b t => ∃ s, Rounds t₀.body.round others a.state l.ends.length s ∧
      Stage t₀.body.round others s b.state t)
    ⟨a.state, .none (ho.refl _), stage_between hidle rfl⟩ ?_
  · obtain ⟨t, ht, -, -, s, hrun, hstage⟩ := hinv
    exact ⟨t, s, ht, hrun, hstage⟩
  rintro l b b' t t' - - - ⟨s, hrun, hstage⟩ htbody hamid - hmove
  cases hmove with
  | others hacting _ _ progress | clock hacting _ _ _ _ progress =>
      have hothers := hamid hacting
      have hsame := progress.busy_eq
      rw [hsame, Timeline.note_self]
      cases hbusy : t.busy with
      | true => exact ⟨s, hrun, hstage.amid ho hbusy progress hothers⟩
      | false =>
          have hs : s = b.state := hstage.between hbusy
          subst hs
          exact ⟨b'.state, hrun.after ho hothers, stage_between (hsame.trans hbusy) rfl⟩
  | begins _ hstate _ _ _ hwas hstill => exact stage_of_not_busy hrun hstage hwas hstill hstate
  | starts _ _ hstate _ _ progress hwas hbecomes =>
      have hs : s = b.state := hstage.between hwas
      rw [hwas, hbecomes, Timeline.note_start]
      refine ⟨s, hrun, stage_inside progress hbecomes ?_⟩
      intro u x hends
      rw [htbody, hstate, ← hs] at hends
      exact hends
  | runs q here hstate _ _ progress hwas =>
      have hgoes := hstage.perform ho (i := i) here
      rw [← hstate] at hgoes
      rw [hwas]
      cases hbusy : t'.busy with
      | true =>
          rw [Timeline.note_self]
          exact ⟨s, hrun, stage_inside progress hbusy hgoes⟩
      | false =>
          have hended := Task.ended_of_not_busy progress hbusy
          rw [hended] at hgoes
          have hround := hgoes () b'.state ⟨rfl, ho.refl _⟩
          rw [Timeline.note_end, List.length_append]
          exact ⟨b'.state, .one hrun hround, stage_between hbusy rfl⟩
  | waits _ _ hstate _ _ _ hwas hstill => exact stage_of_not_busy hrun hstage hwas hstill hstate
  | stops _ hstate _ _ hwas hstill => exact stage_of_not_busy hrun hstage hwas hstill hstate

end HomeEnergy.Schedule
