import HomeEnergy.Proofs.Modbus.Life
import HomeEnergy.Proofs.Routine.Crowd

/-!
# Many tasks on one Modbus connection

Any number of tasks may initialize one connection and use it at the same time. Each of them waits at
many points, in a probe, an attempt to connect, a pause between two attempts or an operation of its
callback, and the others may go on there. All of a call happens under the lock, so that the row of
deeds, the results and what the connection knows in the end are those of calls made one after the
other.

## Main results

* `ModbusWatch.locked_of_called` — initialization and use do all that they do under the lock.
* `ModbusWatch.calls_in_turn` — calls of many tasks amount to calls made one after the other.
-/

namespace HomeEnergy

variable {δ S α : Type}

/-- A controller has nothing to do with the lock of the connection. -/
structure Controller.Lockless (c : Controller δ S) : Prop where
  connect : c.connect.Lockless
  readHolding : ∀ s a n, (c.readHolding s a n).Lockless

namespace Backoff

variable {σ ε : Type} {p : Backoff} {tell : Nat → Option Span → ε → Routine σ Unit}
variable {op : Routine σ (Except ε α)}

theorem lockless_retryFrom (hop : op.Lockless) (htell : ∀ n d e, (tell n d e).Lockless)
    (n left : Nat) : (p.retryFrom tell op n left).Lockless := by
  induction left generalizing n with
  | zero =>
      refine Routine.lockless_do hop ?_
      intro o
      cases o with
      | ok a => exact Routine.lockless_pure _
      | error e => exact Routine.lockless_do (htell n none e) fun _ => Routine.lockless_pure _
  | succ left ih =>
      refine Routine.lockless_do hop ?_
      intro o
      cases o with
      | ok a => exact Routine.lockless_pure _
      | error e => exact Routine.lockless_do (htell n _ e) fun _ => ih (n + 1)

end Backoff

namespace ModbusWatch

variable {settings : ModbusSettings} {c : Controller δ S}

/-! ## What happens under the lock -/

theorem lockless_doing {d : ModbusDeed} {p : Routine δ α} (hp : p.Lockless) :
    (doing d p : Routine (ModbusWatch δ S) α).Lockless :=
  Routine.lockless_do (Routine.lockless_change _) fun _ => Routine.lockless_within hp

theorem lockless_known : (link settings c).known.Lockless :=
  Routine.lockless_do (fun _ => trivial) fun _ => Routine.lockless_pure _

theorem lockless_trial (hc : c.Lockless) : (controller c).connect.Lockless := by
  refine Routine.lockless_do (lockless_doing hc.connect) ?_
  intro o
  cases o with
  | ok handle => exact Routine.lockless_do (fun _ => trivial) fun _ => Routine.lockless_pure _
  | error f => exact Routine.lockless_pure _

theorem lockless_connect (hc : c.Lockless) : (link settings c).connect.Lockless := by
  refine Routine.lockless_do (Routine.lockless_change _) fun _ => ?_
  refine Routine.lockless_do (Backoff.lockless_retryFrom (lockless_trial hc) ?_ _ _) ?_
  · intro n d f
    exact Routine.lockless_change _
  · intro o
    cases o with
    | ok s =>
        refine Routine.lockless_do (Routine.lockless_change _) fun _ => ?_
        exact Routine.lockless_do (Routine.lockless_change _) fun _ => Routine.lockless_pure _
    | error f =>
        refine Routine.lockless_do (Routine.lockless_change _) fun _ => ?_
        exact Routine.lockless_do (Routine.lockless_change _) fun _ => Routine.lockless_pure _

theorem lockless_initUnlocked (hc : c.Lockless) : (link settings c).initUnlocked.Lockless := by
  refine Routine.lockless_do lockless_known fun status => ?_
  split
  · exact Routine.lockless_pure _
  · refine Routine.lockless_do (lockless_connect hc) ?_
    intro o
    cases o with
    | ok u =>
        refine Routine.lockless_do (Routine.lockless_change _) fun _ => ?_
        exact Routine.lockless_do (Routine.lockless_change _) fun _ => Routine.lockless_pure _
    | error f =>
        exact Routine.lockless_do (Routine.lockless_change _) fun _ => Routine.lockless_pure _

theorem lockless_isLive (hc : c.Lockless) (s : Option (Numbered S)) :
    ((link settings c).isLive s).Lockless := by
  unfold ModbusLink.isLive
  split
  · exact Routine.lockless_pure _
  · exact Routine.lockless_pure _
  · refine Routine.lockless_do (lockless_doing (hc.readHolding _ _ _)) ?_
    intro o
    cases o with
    | ok words => exact Routine.lockless_pure _
    | error f =>
        exact Routine.lockless_do (Routine.lockless_change _) fun _ => Routine.lockless_pure _

theorem lockless_ensureLive (hc : c.Lockless) : (link settings c).ensureLive.Lockless := by
  refine Routine.lockless_do lockless_known fun status => ?_
  refine Routine.lockless_do (lockless_isLive hc status.session) fun live => ?_
  split
  · exact Routine.lockless_pure _
  · refine Routine.lockless_do (lockless_connect hc) ?_
    intro o
    cases o with
    | ok u =>
        exact Routine.lockless_do (Routine.lockless_change _) fun _ => Routine.lockless_pure _
    | error f => exact Routine.lockless_pure _

theorem lockless_useSession {body : S → Routine δ (Outcome α)} (hbody : ∀ s, (body s).Lockless)
    (s : Numbered S) : ((link settings c).useSession s (lend body)).Lockless := by
  refine Routine.lockless_do (lockless_doing (hbody s.handle)) fun r => ?_
  cases r with
  | ok a => exact Routine.lockless_pure _
  | error f =>
      cases hf : f.retryable with
      | false =>
          simp only [hf, Bool.false_eq_true, if_false]
          exact Routine.lockless_pure _
      | true =>
          simp only [hf, if_true]
          refine Routine.lockless_do (Routine.lockless_change _) fun _ => ?_
          refine Routine.lockless_do (Routine.lockless_change _) fun _ => ?_
          exact Routine.lockless_do (Routine.lockless_change _) fun _ => Routine.lockless_pure _

theorem lockless_executeUnlocked (hc : c.Lockless) {body : S → Routine δ (Outcome α)}
    (hbody : ∀ s, (body s).Lockless) :
    ((link settings c).executeUnlocked (lend body)).Lockless := by
  refine Routine.lockless_do lockless_known fun status => ?_
  split
  · exact Routine.lockless_pure _
  · refine Routine.lockless_do (lockless_ensureLive hc) fun o => ?_
    cases o with
    | error f => exact Routine.lockless_pure _
    | ok u =>
        refine Routine.lockless_do lockless_known fun status' => ?_
        split
        · exact Routine.lockless_pure _
        · exact lockless_useSession hbody _

/-! ## The calls of many tasks -/

/-- The calls of a connection: initialization, and uses whose callbacks do not use the connection
themselves. -/
inductive Called (settings : ModbusSettings) (c : Controller δ S) :
    Guest (ModbusWatch δ S) → Prop where
  | init : Called settings c (.of (link settings c).init)
  | execute {α : Type} {body : S → Routine δ (Outcome α)} (lockless : ∀ s, (body s).Lockless) :
      Called settings c (.of ((link settings c).execute (lend body)))

theorem locked_of_called (hc : c.Lockless) {g : Guest (ModbusWatch δ S)}
    (h : Called settings c g) : g.Locked := by
  cases h with
  | init => exact Guest.locked_of (lockless_initUnlocked hc)
  | execute lockless => exact Guest.locked_of (lockless_executeUnlocked hc lockless)

/-- The device changes by itself. -/
def Drifts (outside : δ → δ → Prop) (w w' : ModbusWatch δ S) : Prop :=
  ∃ d, outside w.device d ∧ w' = { w with device := d }

theorem interference_drifts {outside : δ → δ → Prop} (ho : Routine.Interference outside) :
    Routine.Interference (Drifts outside : ModbusWatch δ S → ModbusWatch δ S → Prop) where
  refl w := ⟨w.device, ho.refl w.device, rfl⟩
  trans := by
    rintro w _ _ ⟨d, hd, rfl⟩ ⟨d', hd', rfl⟩
    exact ⟨d', ho.trans hd hd', rfl⟩

/-- Tasks come with calls at any time and go on in any order, and the device changes by itself in
any way that is allowed to it. There is never more than one call between taking the lock and giving
it back. A call that has not had the lock has done nothing, and one is over as soon as it gives the
lock back. While nobody has the lock the whole state, which is the row of deeds, the device and what
the connection knows, and the result of each call are what they are when the calls are made one
after the other in the order in which they have taken the lock; and the call that has the lock can
only come to ends that it has behind the calls before it. When all calls are over, each of them is
in that order once. -/
theorem calls_in_turn (hc : c.Lockless) {outside : δ → δ → Prop}
    (ho : Routine.Interference outside) {w₀ : ModbusWatch δ S} {crowd : Crowd (ModbusWatch δ S)}
    (h : Crowd.Reach (Called settings c) (Drifts outside) { state := w₀ } crowd) :
    (∀ i j, crowd.Holds i → crowd.Holds j → i = j) ∧
    (∀ i g, crowd.guests[i]? = some g → i ∉ crowd.taken → g.rest = g.whole) ∧
    (∀ i g, crowd.guests[i]? = some g → ((∃ r, g.rest = .done r) ↔ i ∈ crowd.given)) ∧
    crowd.given <+: crowd.taken ∧ crowd.taken.Nodup ∧
    ((∀ i, ¬crowd.Holds i) →
      Crowd.InTurn (Drifts outside) crowd.guests crowd.taken w₀ crowd.state) ∧
    (∀ i g, crowd.guests[i]? = some g → crowd.Holds i → crowd.taken = crowd.given ++ [i] ∧
      ∃ w, Crowd.InTurn (Drifts outside) crowd.guests crowd.given w₀ w ∧
        ∀ r w', g.rest.EndsAmid (Drifts outside) crowd.state r w' →
          g.whole.EndsAmid (Drifts outside) w r w') ∧
    ((∀ g ∈ crowd.guests, ∃ r, g.rest = .done r) →
      crowd.taken.Perm (List.range crowd.guests.length) ∧
        Crowd.InTurn (Drifts outside) crowd.guests crowd.taken w₀ crowd.state) := by
  have hdrifts := interference_drifts (S := S) ho
  have hs := Crowd.serialized_of_reach (fun _ => locked_of_called hc) hdrifts h
  refine ⟨fun i j => hs.holds_unique, fun i g => hs.untouched, fun i g => hs.over_iff,
    hs.given_prefix, hs.nodup, hs.inTurn hdrifts, ?_, ?_⟩
  · intro i g hg hi
    have hlast := hs.holds_iff.1 hi
    obtain ⟨w, hserved⟩ := hs.served
    exact ⟨hlast, w, hserved.past, hserved.inside i g hg hlast⟩
  · intro hover
    exact ⟨hs.taken_perm hover, hs.inTurn hdrifts (hs.not_holds hover)⟩

/-! ## Three tasks -/

theorem lockless_scripted : scripted.Lockless where
  connect := fun _ => trivial
  readHolding := fun _ _ _ _ => trivial

/-- A callback that asks the device for one thing. -/
def asks (n : Nat) (_ : Unit) : Routine (List Bool) (Outcome Nat) := scriptedAnswer n

/-- An initialization and two uses have come. -/
def scriptedCrowd : Crowd (ModbusWatch (List Bool) Unit) where
  state := { device := [false] }
  guests := [.of (link scriptedSettings scripted).init,
    .of ((link scriptedSettings scripted).execute (lend (asks 7))),
    .of ((link scriptedSettings scripted).execute (lend (asks 8)))]

/-- The initialization takes the lock first, and both uses wait for it; then the later of them is
the faster one. -/
def scriptedTurns : List Nat :=
  List.replicate 6 0 ++ [1, 2] ++ List.replicate 15 0 ++ [2, 1] ++ List.replicate 10 2 ++
    List.replicate 12 1

/-- The first attempt of the initialization is turned down while both uses wait. The use that came
last is the first to be served behind the initialization. -/
theorem calls_in_turn_overtaking :
    ∃ crowd : Crowd (ModbusWatch (List Bool) Unit),
      Crowd.Reach (Called scriptedSettings scripted) (Drifts Eq)
        { state := { device := [false] } } crowd ∧
      crowd.guests.length = 3 ∧
      crowd.state.deeds = [.trial, .trial, .opened 0, .told .initialized, .probed 0, .used 0,
        .probed 0, .used 0] ∧
      Crowd.InTurn (Drifts Eq) crowd.guests [0, 2, 1] { device := [false] } crowd.state := by
  have hasks : ∀ n s, (asks n s).Lockless := fun _ _ _ => trivial
  have hcame : Crowd.Reach (Called scriptedSettings scripted) (Drifts Eq)
      { state := { device := [false] } } scriptedCrowd :=
    ((Relation.ReflTransGen.refl.tail (.come .init)).tail
      (.come (.execute (hasks 7)))).tail (.come (.execute (hasks 8)))
  have hreach := hcame.trans (Crowd.reach_turns scriptedCrowd scriptedTurns)
  refine ⟨_, hreach, rfl, rfl, ?_⟩
  obtain ⟨_, _, hover, _, _, _, _, hall⟩ :=
    calls_in_turn lockless_scripted Routine.interference_eq hreach
  refine (hall ?_).2
  intro g hg
  obtain ⟨i, hi⟩ := List.getElem?_of_mem hg
  have hlt : i < 3 := (List.getElem?_eq_some_iff.1 hi).1
  have hserved : i ∈ [0, 2, 1] := by
    have hcases : i = 0 ∨ i = 2 ∨ i = 1 := by omega
    simpa using hcases
  exact (hover i g hi).2 hserved

end ModbusWatch

end HomeEnergy
