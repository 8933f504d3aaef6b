import HomeEnergy.Proofs.Polling.Fleet
import HomeEnergy.Proofs.Polling.Kept

/-!
# Pollers side by side

How the cycles of the modules of a fleet fall between each other makes no difference to any of them.
That is said in two ways. If a module makes the same moves, everything is the same for it, whoever
else moves. And whatever it is that goes on in and around its device: if it gets the same answers
from its device and its sink, it does the same and leaves the same behind.

## Main results

* `PollerWatch.rounds_eq_of_answers` — the answers that a module gets decide what it does.
* `Fleet.cycles_of_run` — the cycles of a module of a fleet are a run of cycles amid others.
* `Fleet.run_unaffected` — what a fleet leaves behind, for each module and as a whole.
-/

namespace HomeEnergy

namespace PollDeed

variable {ρ : Type}

/-- The answer of the device. -/
def brought? : PollDeed ρ → Option (Outcome ρ)
  | queried answer => some answer
  | _ => none

/-- The answer of the sink. -/
def taken? : PollDeed ρ → Option (Outcome Unit)
  | answered answer => some answer
  | _ => none

/-- The device and the sink have given the same answers, each in the same order. -/
def SameAnswers (ds ds' : List (PollDeed ρ)) : Prop :=
  ds.filterMap brought? = ds'.filterMap brought? ∧ ds.filterMap taken? = ds'.filterMap taken?

end PollDeed

/-! ## What the answers decide -/

namespace PollerWatch

open PollDeed (brought? taken? SameAnswers)

variable {δ ρ : Type} {write : ρ → Outcome Document}

/-- Two cycles that begin with the same answers are the same. -/
theorem Round.eq_of_answers {ds ds' more more' : List (PollDeed ρ)} {r r' : Outcome Unit}
    (h : Round write ds r) (h' : Round write ds' r')
    (hsame : SameAnswers (ds ++ more) (ds' ++ more')) :
    ds = ds' ∧ r = r' ∧ SameAnswers more more' := by
  obtain ⟨hbrought, htaken⟩ := hsame
  cases h with
  | failed f =>
      cases h' with
      | failed f' =>
          obtain ⟨hf, hmore⟩ := List.cons.inj hbrought
          cases hf
          exact ⟨rfl, rfl, hmore, htaken⟩
      | unwritable x' f' bad' => cases (List.cons.inj hbrought).1
      | handed x' d' answer' good' => cases (List.cons.inj hbrought).1
  | unwritable x f bad =>
      cases h' with
      | failed f' => cases (List.cons.inj hbrought).1
      | unwritable x' f' bad' =>
          obtain ⟨hx, hmore⟩ := List.cons.inj hbrought
          cases hx
          cases bad.symm.trans bad'
          exact ⟨rfl, rfl, hmore, htaken⟩
      | handed x' d' answer' good' =>
          cases (List.cons.inj hbrought).1
          cases bad.symm.trans good'
  | handed x d answer good =>
      cases h' with
      | failed f' => cases (List.cons.inj hbrought).1
      | unwritable x' f' bad' =>
          cases (List.cons.inj hbrought).1
          cases good.symm.trans bad'
      | handed x' d' answer' good' =>
          obtain ⟨hx, hmore⟩ := List.cons.inj hbrought
          cases hx
          cases good.symm.trans good'
          obtain ⟨hanswer, hmore'⟩ := List.cons.inj htaken
          cases hanswer
          exact ⟨rfl, rfl, hmore, hmore'⟩

/-- Each cycle has an answer of the device. -/
theorem Round.brought_ne_nil {ds : List (PollDeed ρ)} {r : Outcome Unit} (h : Round write ds r)
    (more : List (PollDeed ρ)) : (ds ++ more).filterMap brought? ≠ [] := by
  cases h with
  | failed f => exact List.cons_ne_nil _ _
  | unwritable x f bad => exact List.cons_ne_nil _ _
  | handed x d answer good => exact List.cons_ne_nil _ _

/-- The answers decide what the cycles do. -/
theorem rounds_eq_of_answers {rounds rounds' : List (List (PollDeed ρ) × Outcome Unit)}
    (h : ∀ round ∈ rounds, Round write round.1 round.2)
    (h' : ∀ round ∈ rounds', Round write round.1 round.2)
    (hsame : SameAnswers (rounds.flatMap Prod.fst) (rounds'.flatMap Prod.fst)) :
    rounds = rounds' := by
  induction rounds generalizing rounds' with
  | nil =>
      cases rounds' with
      | nil => rfl
      | cons round' rounds' =>
          have hnone := (h' round' List.mem_cons_self).brought_ne_nil (rounds'.flatMap Prod.fst)
          exact absurd hsame.1.symm hnone
  | cons round rounds ih =>
      cases rounds' with
      | nil =>
          have hnone := (h round List.mem_cons_self).brought_ne_nil (rounds.flatMap Prod.fst)
          exact absurd hsame.1 hnone
      | cons round' rounds' =>
          obtain ⟨hds, hr, hmore⟩ := (h round List.mem_cons_self).eq_of_answers
            (h' round' List.mem_cons_self) hsame
          rw [Prod.ext hds hr, ih (fun _ hmem => h _ (List.mem_cons_of_mem _ hmem))
            (fun _ hmem => h' _ (List.mem_cons_of_mem _ hmem)) hmore]

/-- Two states are level for the module with a name: its entry and its counts are the same. -/
structure Level (name : String) (w v : PollerWatch δ ρ) : Prop where
  entry : v.cache.get? name = w.cache.get? name
  counts : ∀ r : QueryResult, v.metrics.queryCount name r.name = w.metrics.queryCount name r.name

/-- Two runs with the same answers consist of the same deeds, have the same results and leave the
same behind. -/
theorem Kept.eq_of_answers {name : String} {spared spared' : String → Prop}
    {w w' v v' : PollerWatch δ ρ} {news news' : List (PollDeed ρ)} {rs rs' : List (Outcome Unit)}
    (h : Kept name write spared w news rs w') (h' : Kept name write spared' v news' rs' v')
    (hlevel : Level name w v) (hsame : SameAnswers news news') :
    news' = news ∧ rs' = rs ∧ Level name w' v' := by
  obtain ⟨rounds, rfl, rfl, hrounds⟩ := h.rounds
  obtain ⟨rounds', rfl, rfl, hrounds'⟩ := h'.rounds
  obtain rfl := rounds_eq_of_answers hrounds hrounds' hsame
  refine ⟨rfl, rfl, ?_, ?_⟩
  · rw [h'.entry, h.entry, hlevel.entry]
  · intro r
    cases r with
    | success =>
        show v'.metrics.queryCount name "success" = w'.metrics.queryCount name "success"
        rw [h'.successes, h.successes]
        exact congrArg (· + _) (hlevel.counts .success)
    | failure =>
        show v'.metrics.queryCount name "failure" = w'.metrics.queryCount name "failure"
        rw [h'.failures, h.failures]
        exact congrArg (· + _) (hlevel.counts .failure)

end PollerWatch

/-! ## Cycles in a fleet -/

namespace Poller

variable {σ ρ : Type} {p : Poller σ ρ} {others : σ → σ → Prop} {s s' t : σ}
  {rs : List (Outcome Unit)}

/-- Others may act after a run. -/
theorem Cycles.after (ho : Routine.Interference others) (h : p.Cycles others s rs s')
    (hafter : others s' t) : p.Cycles others s rs t := by
  cases h with
  | none amid => exact .none (ho.trans amid hafter)
  | one before cycle => exact .one before (cycle.after ho hafter)

end Poller

namespace Member

variable {δ ρ : Type} {p : Member δ ρ} {others : PollerWatch δ ρ → PollerWatch δ ρ → Prop}
  {w₀ w : PollerWatch δ ρ} {calls : List (Routine (PollerWatch δ ρ) (Outcome Unit))}

/-- No cycle is under way. -/
def Idle (calls : List (Routine (PollerWatch δ ρ) (Outcome Unit))) : Prop :=
  ∀ q ∈ calls, q.result?.isSome = true

instance : Decidable (Idle calls) := inferInstanceAs (Decidable (∀ q ∈ calls, _))

/-- The cycles of a module that has gone through one after the other: all are over, or the last one
may still be under way. -/
inductive Going (p : Member δ ρ) (others : PollerWatch δ ρ → PollerWatch δ ρ → Prop)
    (w₀ w : PollerWatch δ ρ) (calls : List (Routine (PollerWatch δ ρ) (Outcome Unit))) :
    Prop where
  | between (rs : List (Outcome Unit)) (calls : calls = rs.map .done)
      (cycles : p.poller.Cycles others w₀ rs w)
  /-- However the rest of the last cycle ends, the whole cycle may have ended so. -/
  | within (rs : List (Outcome Unit)) (q : Routine (PollerWatch δ ρ) (Outcome Unit))
      (v : PollerWatch δ ρ) (calls : calls = rs.map .done ++ [q])
      (cycles : p.poller.Cycles others w₀ rs v)
      (ends : ∀ r e, q.EndsAmid others w r e → p.poller.cycle.EndsAmid others v r e)

/-- When no cycle is under way, all have been gone through. -/
theorem Going.cycles (ho : Routine.Interference others) (h : p.Going others w₀ w calls)
    (hidle : Idle calls) : ∃ rs, calls = rs.map .done ∧ p.poller.Cycles others w₀ rs w := by
  cases h with
  | between rs hcalls hcycles => exact ⟨rs, hcalls, hcycles⟩
  | within rs q v hcalls hcycles hends =>
      have hmem : q ∈ calls := by
        rw [hcalls]
        exact List.mem_concat_self
      obtain ⟨r, rfl⟩ := Routine.eq_done_of_result? (hidle q hmem)
      refine ⟨rs ++ [r], by rw [hcalls, List.map_append]; rfl, .one hcycles ?_⟩
      exact hends r w ⟨rfl, ho.refl w⟩

/-- Others act. -/
theorem Going.after (ho : Routine.Interference others) {w' : PollerWatch δ ρ}
    (h : p.Going others w₀ w calls) (hafter : others w w') : p.Going others w₀ w' calls := by
  cases h with
  | between rs hcalls hcycles => exact .between rs hcalls (hcycles.after ho hafter)
  | within rs q v hcalls hcycles hends =>
      exact .within rs q v hcalls hcycles fun r e hq => hends r e (hq.before ho hafter)

/-- The module makes a move; a cycle begins only if none is under way. -/
theorem Going.move (ho : Routine.Interference others)
    (hdevice : ∀ (f : δ → δ) (v : PollerWatch δ ρ), others v { v with device := f v.device })
    (h : p.Going others w₀ w calls) (m : PollMove δ) (hturn : m.isBegin = true → Idle calls) :
    p.Going others w₀ (p.move w calls m).1 (p.move w calls m).2 := by
  cases m with
  | begins =>
      obtain ⟨rs, rfl, hcycles⟩ := h.cycles ho (hturn rfl)
      exact .within rs p.poller.cycle w rfl hcycles fun _ _ hq => hq
  | changes f => exact h.after ho (hdevice f w)
  | goes i n =>
      cases hi : calls[i]? with
      | none => simpa only [Member.move, hi] using h
      | some q =>
          simp only [Member.move, hi]
          -- A cycle that is over stays as it is.
          have hdone : ∀ r, q = .done r →
              p.Going others w₀ (q.advance n w).2 (calls.set i (q.advance n w).1) := by
            rintro r rfl
            obtain ⟨hlt, hget⟩ := List.getElem?_eq_some_iff.1 hi
            have hset : calls.set i (.done r) = calls := by rw [← hget, List.set_getElem_self]
            simpa only [Routine.advance, hset] using h
          cases h with
          | between rs hcalls hcycles =>
              rw [hcalls, List.getElem?_map] at hi
              obtain ⟨r, -, hr⟩ := Option.map_eq_some_iff.1 hi
              exact hdone r hr.symm
          | within rs last v hcalls hcycles hends =>
              rw [hcalls] at hi
              rcases Nat.lt_or_ge i rs.length with hlt | hge
              · rw [List.getElem?_append_left (by simpa using hlt), List.getElem?_map] at hi
                obtain ⟨r, -, hr⟩ := Option.map_eq_some_iff.1 hi
                exact hdone r hr.symm
              · rw [List.getElem?_append_right (by simpa using hge)] at hi
                obtain ⟨hzero, hq⟩ := List.getElem?_eq_some_iff.1 hi
                have hpos : i = (rs.map (Routine.done (σ := PollerWatch δ ρ))).length := by
                  simp only [List.length_map] at hzero hge ⊢
                  simp only [List.length_singleton] at hzero
                  omega
                subst hpos
                obtain rfl : last = q := by simpa using hq
                refine .within rs _ v ?_ hcycles fun r e hleft =>
                  hends r e (Routine.endsAmid_advance ho hleft)
                rw [hcalls, List.set_append_right _ _ (Nat.le_refl _), Nat.sub_self]
                rfl

end Member

namespace Fleet

open PollDeed (SameAnswers)

variable {ι : Type} {δ ρ : ι → Type} {F : Fleet ι δ ρ} {j : ι} {x y : Floor δ ρ}

/-- What the others may do while a module polls. -/
abbrev Others (F : Fleet ι δ ρ) (j : ι) :
    PollerWatch (δ j) (ρ j) → PollerWatch (δ j) (ρ j) → Prop :=
  PollerWatch.Apart (F.name j) fun _ => False

/-- Whatever is the same for a module is the same but for what others may do. -/
theorem Agree.others (h : F.Agree j x y) : F.Others j (view x j) (view y j) where
  deeds := congrArg Desk.deeds h.desk
  entry := h.entry
  others _ hspared := hspared.elim
  counts := h.counts

variable [DecidableEq ι]

/-- A module begins a cycle only if none of its cycles is under way. -/
def InTurn (F : Fleet ι δ ρ) (j : ι) : Floor δ ρ → List (FleetMove δ) → Prop
  | _, [] => True
  | x, a :: as =>
    ((moveOf? j a).any PollMove.isBegin = true → Member.Idle (x.desks j).calls) ∧
      F.InTurn j (F.move x a) as

instance decidableInTurn (F : Fleet ι δ ρ) (j : ι) :
    (x : Floor δ ρ) → (as : List (FleetMove δ)) → Decidable (F.InTurn j x as)
  | _, [] => .isTrue trivial
  | x, a :: as =>
    have := decidableInTurn F j (F.move x a) as
    inferInstanceAs (Decidable (_ ∧ _))

theorem going_of_run {w₀ : PollerWatch (δ j) (ρ j)} (hx : F.Sound x)
    (h : (F.member j).Going (F.Others j) w₀ (view x j) (x.desks j).calls)
    {as : List (FleetMove δ)} (hturn : F.InTurn j x as) :
    (F.member j).Going (F.Others j) w₀ (view (F.run x as) j) ((F.run x as).desks j).calls := by
  induction as generalizing x with
  | nil => exact h
  | cons a as ih =>
      obtain ⟨hbegins, hrest⟩ := hturn
      obtain ⟨k, m⟩ := a
      refine ih (sound_move hx _) ?_ hrest
      by_cases hk : j = k
      · subst hk
        have hgoing := h.move PollerWatch.interference_apart
          (fun _ _ => ⟨rfl, rfl, fun _ _ => rfl, fun _ => rfl⟩) m fun hm =>
            hbegins (by simpa [moveOf?] using hm)
        simpa only [move, settle, view, Function.update_self] using hgoing
      · have hagree := agree_of_move_other hx hk m
        rw [hagree.desk]
        exact h.after PollerWatch.interference_apart hagree.others

/-- The cycles of a module of a fleet are a run of cycles amid others. -/
theorem cycles_of_run (hx : ∀ j, (x.desks j).calls = []) {as : List (FleetMove δ)}
    (hturn : F.InTurn j x as) (hidle : Member.Idle ((F.run x as).desks j).calls) :
    ∃ rs, ((F.run x as).desks j).calls = rs.map .done ∧
      (F.member j).poller.Cycles (F.Others j) (view x j) rs (view (F.run x as) j) := by
  have hbegin : (F.member j).Going (F.Others j) (view x j) (view x j) (x.desks j).calls :=
    .between [] (hx j) (.none (PollerWatch.Apart.refl _))
  exact (going_of_run (sound_of_idle hx) hbegin hturn).cycles PollerWatch.interference_apart hidle

/-- Nobody but a module itself puts its entry or counts its queries. -/
theorem stranger_of_move (hx : F.Sound x) (a : FleetMove δ) {name : String}
    (hname : ∀ j, name ≠ F.name j) : (F.move x a).cache.get? name = x.cache.get? name ∧
      ∀ r, (F.move x a).metrics.queryCount name r = x.metrics.queryCount name r := by
  obtain ⟨k, m⟩ := a
  obtain ⟨onCache, onMetrics, htouch, desk, -, hmove⟩ := touch_of_move hx k m
  rw [hmove x rfl rfl]
  exact ⟨htouch.get?_other (hname k) x.cache, htouch.queryCount_other (hname k) x.metrics⟩

theorem stranger_of_run (hx : F.Sound x) (as : List (FleetMove δ)) {name : String}
    (hname : ∀ j, name ≠ F.name j) : (F.run x as).cache.get? name = x.cache.get? name ∧
      ∀ r, (F.run x as).metrics.queryCount name r = x.metrics.queryCount name r := by
  induction as generalizing x with
  | nil => exact ⟨rfl, fun _ => rfl⟩
  | cons a as ih =>
      obtain ⟨hentry, hcounts⟩ := stranger_of_move hx a hname
      obtain ⟨hentry', hcounts'⟩ := ih (sound_move hx a)
      exact ⟨hentry'.trans hentry, fun r => (hcounts' r).trans (hcounts r)⟩

/-- The cycles of a module come one after the other, and none is under way at the end. -/
def Completes (F : Fleet ι δ ρ) (j : ι) (x : Floor δ ρ) (as : List (FleetMove δ)) : Prop :=
  F.InTurn j x as ∧ Member.Idle ((F.run x as).desks j).calls

instance (as : List (FleetMove δ)) : Decidable (F.Completes j x as) :=
  inferInstanceAs (Decidable (_ ∧ _))

/-- What a module has done in a run. -/
def Did (j : ι) (x y : Floor δ ρ) (news : List (PollDeed (ρ j))) : Prop :=
  (y.desks j).deeds = (x.desks j).deeds ++ news

theorem kept_of_completes (hx : ∀ j, (x.desks j).calls = []) {as : List (FleetMove δ)}
    (h : F.Completes j x as) :
    ∃ rs news, ((F.run x as).desks j).calls = rs.map .done ∧ Did j x (F.run x as) news ∧
      PollerWatch.Kept (F.name j) (F.member j).write (fun _ => False) (view x j) news rs
        (view (F.run x as) j) := by
  obtain ⟨rs, hcalls, hcycles⟩ := cycles_of_run hx h.1 h.2
  obtain ⟨news, hkept⟩ := PollerWatch.kept_of_cycles hcycles
  exact ⟨rs, news, hcalls, hkept.deeds, hkept⟩

/-- With the same answers for each module, the same is left behind. -/
theorem same_of_answers (hx : ∀ j, (x.desks j).calls = []) {as bs : List (FleetMove δ)}
    (h : ∀ j, F.Completes j x as ∧ F.Completes j x bs ∧
      ∃ news news', Did j x (F.run x as) news ∧ Did j x (F.run x bs) news' ∧
        SameAnswers news news') :
    (F.run x bs).cache = (F.run x as).cache ∧
      (∀ name (r : QueryResult), (F.run x bs).metrics.queryCount name r.name
        = (F.run x as).metrics.queryCount name r.name) ∧
      ∀ j, ((F.run x bs).desks j).deeds = ((F.run x as).desks j).deeds := by
  have hsame : ∀ j, ((F.run x bs).desks j).deeds = ((F.run x as).desks j).deeds ∧
      PollerWatch.Level (F.name j) (view (F.run x as) j) (view (F.run x bs) j) := by
    intro j
    obtain ⟨has, hbs, news, news', hdid, hdid', hanswers⟩ := h j
    obtain ⟨rs, ds, -, hds, hkept⟩ := kept_of_completes hx has
    obtain ⟨rs', ds', -, hds', hkept'⟩ := kept_of_completes hx hbs
    obtain rfl := List.append_cancel_left (hds.symm.trans hdid)
    obtain rfl := List.append_cancel_left (hds'.symm.trans hdid')
    obtain ⟨rfl, -, hlevel⟩ := hkept.eq_of_answers hkept' ⟨rfl, fun _ => rfl⟩ hanswers
    exact ⟨hds'.trans hds.symm, hlevel⟩
  have hsound := sound_of_idle (F := F) hx
  refine ⟨?_, fun name r => ?_, fun j => (hsame j).1⟩
  · refine congrArg Cache.mk (Catalog.eq_of_find? fun name => ?_)
    by_cases hname : ∃ j, name = F.name j
    · obtain ⟨j, rfl⟩ := hname
      exact (hsame j).2.entry
    · have hstranger : ∀ j, name ≠ F.name j := fun j heq => hname ⟨j, heq⟩
      exact (stranger_of_run hsound bs hstranger).1.trans
        (stranger_of_run hsound as hstranger).1.symm
  · by_cases hname : ∃ j, name = F.name j
    · obtain ⟨j, rfl⟩ := hname
      exact (hsame j).2.counts r
    · have hstranger : ∀ j, name ≠ F.name j := fun j heq => hname ⟨j, heq⟩
      exact ((stranger_of_run hsound bs hstranger).2 r.name).trans
        ((stranger_of_run hsound as hstranger).2 r.name).symm

/-- Any number of modules poll side by side, and the moves of their cycles fall between each other
in any way. Then for each of them everything is as if some of the others, or all of them, had never
moved. Wherever a module goes through cycles of its own and gets the same answers from its device
and its sink, alone or amid others, it has the same results, does the same and leaves the same entry
and the same counts behind. And the same moves of each module, in whichever way they fall between
each other, end in the same state; so do the same answers, with the same cache and the same
counts. -/
theorem run_unaffected (F : Fleet ι δ ρ) (x : Floor δ ρ) (hx : ∀ j, (x.desks j).calls = []) :
    (∀ as j (keep : ι → Bool), keep j = true →
      F.Agree j (F.run x (as.filter fun a => keep a.1)) (F.run x as)) ∧
    (∀ as j, F.Completes j x as →
      ∃ rs news, ((F.run x as).desks j).calls = rs.map .done ∧ Did j x (F.run x as) news ∧
        ∀ w rs' news' w', PollerWatch.Level (F.name j) (view x j) w →
          (F.member j).poller.Cycles (F.Others j) w rs' w' → w'.deeds = w.deeds ++ news' →
          SameAnswers news news' →
          rs' = rs ∧ news' = news ∧
            PollerWatch.Level (F.name j) (view (F.run x as) j) w') ∧
    (∀ as bs, (∀ j, history j as = history j bs) → F.run x as = F.run x bs) ∧
    ∀ as bs, (∀ j, F.Completes j x as ∧ F.Completes j x bs ∧
      ∃ news news', Did j x (F.run x as) news ∧ Did j x (F.run x bs) news' ∧
        SameAnswers news news') →
      (F.run x bs).cache = (F.run x as).cache ∧
        (∀ name (r : QueryResult), (F.run x bs).metrics.queryCount name r.name
          = (F.run x as).metrics.queryCount name r.name) ∧
        ∀ j, ((F.run x bs).desks j).deeds = ((F.run x as).desks j).deeds := by
  refine ⟨fun as j keep hkeep => ?_, fun as j hcompletes => ?_, fun as bs => ?_,
    fun as bs => same_of_answers hx⟩
  · exact agree_of_history (sound_of_idle hx) (history_filter j hkeep as)
  · obtain ⟨rs, news, hcalls, hdid, hkept⟩ := kept_of_completes hx hcompletes
    refine ⟨rs, news, hcalls, hdid, fun w rs' news' w' hlevel hcycles hnews hanswers => ?_⟩
    obtain ⟨ds, hkept'⟩ := PollerWatch.kept_of_cycles hcycles
    obtain rfl := List.append_cancel_left (hkept'.deeds.symm.trans hnews)
    obtain ⟨hdeeds, hresults, hlevel'⟩ := hkept.eq_of_answers hkept' hlevel hanswers
    exact ⟨hresults, hdeeds, hlevel'⟩
  · exact run_eq_of_histories (sound_of_idle hx)

/-! ## A module that fails beside one that does not -/

/-- A meter that answers, and a stove that does not. -/
def unequal : Fleet Bool (fun _ => List (Outcome Nat)) (fun _ => Nat) where
  member working := {
    source := { PollerWatch.scriptedMeter with name := if working then "meter" else "stove" }
    sink := PollerWatch.scriptedSink
    write := PollerWatch.scriptedWrite
    interval := .ofMillis 1000
    task := 0 }
  distinct {j k} hne := by
    cases j <;> cases k <;> first | exact absurd rfl hne | decide

/-- Both are at rest. -/
def unequalStart : Floor (fun _ : Bool => List (Outcome Nat)) (fun _ => Nat) where
  cache := .empty
  metrics := .empty
  desks working := {
    worker := { name := "" }
    device := if working then [.ok 7, .ok 8]
      else [.error (.timeout "stove"), .error (.timeout "stove")] }

/-- A cycle of one of them, with as many steps as either may need. -/
def cycleMoves (working : Bool) (call : Nat) :
    List (FleetMove fun _ : Bool => List (Outcome Nat)) :=
  ⟨working, .begins⟩ :: List.replicate 8 ⟨working, .goes call 0⟩

/-- Two cycles of the meter, and then two of the stove. -/
def inRow : List (FleetMove fun _ : Bool => List (Outcome Nat)) :=
  cycleMoves true 0 ++ cycleMoves true 1 ++ cycleMoves false 0 ++ cycleMoves false 1

/-- The same cycles, with a move of the stove behind each move of the meter. -/
def inTurns : List (FleetMove fun _ : Bool => List (Outcome Nat)) :=
  (List.zipWith (fun a b => [a, b]) (cycleMoves true 0 ++ cycleMoves true 1)
    (cycleMoves false 0 ++ cycleMoves false 1)).flatten

/-- The stove fails twice, and in either order the meter has its record and its counts. -/
theorem run_unaffected_unequal :
    (∀ j, unequal.Completes j unequalStart inTurns) ∧
    unequal.run unequalStart inTurns = unequal.run unequalStart inRow ∧
    unequal.Agree true (unequal.run unequalStart (cycleMoves true 0 ++ cycleMoves true 1))
      (unequal.run unequalStart inTurns) ∧
    (unequal.run unequalStart inTurns).cache.get? "meter" = some (Json.bytes (.int 8)) ∧
    (unequal.run unequalStart inTurns).metrics.queryCount "meter" "success" = 2 ∧
    (unequal.run unequalStart inTurns).metrics.queryCount "stove" "failure" = 2 := by
  obtain ⟨halone, -, horder, -⟩ := run_unaffected unequal unequalStart fun _ => rfl
  have hentry : (unequal.run unequalStart inTurns).cache.get? "meter"
      = some (Json.bytes (.int 8)) := by decide +kernel
  have hmeter : (unequal.run unequalStart inTurns).metrics.queryCount "meter" "success" = 2 := by
    decide +kernel
  have hstove : (unequal.run unequalStart inTurns).metrics.queryCount "stove" "failure" = 2 := by
    decide +kernel
  refine ⟨by decide +kernel, horder inTurns inRow fun j => ?_, halone inTurns true id rfl, hentry,
    hmeter, hstove⟩
  cases j with
  | false => rfl
  | true => rfl

end Fleet

end HomeEnergy
