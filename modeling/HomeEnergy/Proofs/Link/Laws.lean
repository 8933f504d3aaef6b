import HomeEnergy.Link.Http
import HomeEnergy.Link.Modbus
import HomeEnergy.Proofs.Routine.Laws

/-!
# Laws that connections obey

A connection does four things to a state: it uses what is behind it, changes what it knows, and
gives away events and log lines. Where each of these obeys a law, so do initializations and uses.

## Main results

* `HttpLink.Obeys.init`, `HttpLink.Obeys.execute` — connections that send requests.
* `ModbusLink.Obeys.init`, `ModbusLink.Obeys.execute` — connections that hold a session.
-/

namespace HomeEnergy

open Routine (Law)

variable {σ S α ε : Type} {r inner outer : Law σ}

namespace Backoff

variable {p : Backoff} {tell : Nat → Option Span → ε → Routine σ Unit}
variable {op : Routine σ (Except ε α)}

theorem obeys_retryFrom (hop : r.holds op) (htell : ∀ n d e, r.holds (tell n d e))
    (n left : Nat) : r.holds (p.retryFrom tell op n left) := by
  induction left generalizing n with
  | zero =>
      refine r.seq hop fun o => ?_
      cases o with
      | ok a => exact r.value _
      | error e => exact r.seq (htell n none e) fun _ => r.value _
  | succ left ih =>
      refine r.seq hop fun o => ?_
      cases o with
      | ok a => exact r.value _
      | error e =>
          refine r.seq (htell n _ e) fun _ => ?_
          exact r.seq (r.pause _) fun _ => ih (n + 1)

end Backoff

/-! ## Connections that send requests -/

/-- What a connection does to a state obeys a law. -/
structure HttpLink.Obeys (r : Law σ) (l : HttpLink σ) : Prop where
  send : ∀ call, r.holds (l.send call)
  update : ∀ f, r.holds (l.update f)
  report : ∀ e, r.holds (.change (l.report e))
  log : ∀ e, r.holds (.change (l.log e))

namespace HttpLink.Obeys

variable {l : HttpLink σ}

theorem known : r.holds l.known := r.seq r.look fun _ => r.value _

theorem note (h : l.Obeys r) (level : LogLevel) (text : String) : r.holds (l.note level text) :=
  h.log _

theorem probe (h : l.Obeys r) : r.holds l.probe := by
  refine r.seq (h.send _) fun o => ?_
  cases o with
  | error loss => exact r.value _
  | ok answer =>
      dsimp only
      split
      · exact r.value _
      · exact r.value _

theorem approach (h : l.Obeys r) : r.holds l.approach := by
  unfold HttpLink.approach
  split
  · exact h.probe
  · exact r.value _

theorem init (h : l.Obeys r) : r.holds l.init := by
  refine r.seq known fun status => ?_
  split
  · exact r.value _
  · refine r.seq (h.note _ _) fun _ => ?_
    refine r.seq (h.update _) fun _ => ?_
    refine r.seq h.approach fun o => ?_
    cases o with
    | ok u =>
        refine r.seq (h.update _) fun _ => ?_
        exact r.seq (h.report _) fun _ => r.value _
    | error f =>
        refine r.seq (h.note _ _) fun _ => ?_
        refine r.seq (h.update _) fun _ => ?_
        exact r.seq (h.report _) fun _ => r.value _

theorem recover (h : l.Obeys r) : r.holds l.recover := by
  refine r.seq known fun status => ?_
  split
  · exact r.value _
  · refine r.seq (h.note _ _) fun _ => ?_
    refine r.seq (h.update _) fun _ => ?_
    refine r.seq h.probe fun o => ?_
    cases o with
    | ok u =>
        refine r.seq (h.update _) fun _ => ?_
        exact r.seq (h.report _) fun _ => r.value _
    | error f => exact r.seq (h.update _) fun _ => r.value _

theorem request (h : l.Obeys r) {handler : Http.Answer → Routine σ (Outcome α)}
    (hhandler : ∀ a, r.holds (handler a)) : r.holds (l.request handler) := by
  refine r.seq (h.send _) fun o => ?_
  cases o with
  | ok answer => exact hhandler answer
  | error loss =>
      refine r.seq (h.note _ _) fun _ => ?_
      refine r.seq (h.update _) fun _ => ?_
      exact r.seq (h.report _) fun _ => r.value _

theorem execute (h : l.Obeys r) {handler : Http.Answer → Routine σ (Outcome α)}
    (hhandler : ∀ a, r.holds (handler a)) : r.holds (l.execute handler) := by
  refine r.seq known fun status => ?_
  split
  · exact r.value _
  · refine r.seq h.recover fun o => ?_
    cases o with
    | error f => exact r.value _
    | ok u => exact h.request hhandler

end HttpLink.Obeys

/-! ## Connections that hold a session -/

/-- What a controller does obeys a law. -/
structure Controller.Obeys (r : Law σ) (c : Controller σ S) : Prop where
  connect : r.holds c.connect
  readHolding : ∀ s a n, r.holds (c.readHolding s a n)
  writeSingle : ∀ s a w, r.holds (c.writeSingle s a w)

/-- What a connection does to a state obeys a law. -/
structure ModbusLink.Obeys (r : Law σ) (l : ModbusLink σ S) : Prop where
  controller : l.controller.Obeys r
  update : ∀ f, r.holds (l.update f)
  report : ∀ e, r.holds (.change (l.report e))
  log : ∀ e, r.holds (.change (l.log e))

namespace ModbusLink.Obeys

variable {l : ModbusLink σ S}

theorem known : r.holds l.known := r.seq r.look fun _ => r.value _

theorem note (h : l.Obeys r) (level : LogLevel) (text : String) : r.holds (l.note level text) :=
  h.log _

theorem connect (h : l.Obeys r) : r.holds l.connect := by
  refine r.seq (h.update _) fun _ => ?_
  refine r.seq (Backoff.obeys_retryFrom h.controller.connect ?_ _ _) fun o => ?_
  · intro n d f
    exact h.log _
  · cases o with
    | ok session =>
        refine r.seq (h.note _ _) fun _ => ?_
        exact r.seq (h.update _) fun _ => r.value _
    | error f =>
        refine r.seq (h.note _ _) fun _ => ?_
        exact r.seq (h.update _) fun _ => r.value _

theorem initUnlocked (h : l.Obeys r) : r.holds l.initUnlocked := by
  refine r.seq known fun status => ?_
  split
  · exact r.value _
  · refine r.seq h.connect fun o => ?_
    cases o with
    | ok u =>
        refine r.seq (h.update _) fun _ => ?_
        exact r.seq (h.report _) fun _ => r.value _
    | error f => exact r.seq (h.report _) fun _ => r.value _

theorem isLive (h : l.Obeys r) (session : Option S) : r.holds (l.isLive session) := by
  unfold ModbusLink.isLive
  split
  · exact r.value _
  · exact r.value _
  · refine r.seq (h.controller.readHolding _ _ _) fun o => ?_
    cases o with
    | ok words => exact r.value _
    | error f => exact r.seq (h.note _ _) fun _ => r.value _

theorem ensureLive (h : l.Obeys r) : r.holds l.ensureLive := by
  refine r.seq known fun status => ?_
  refine r.seq (h.isLive _) fun live => ?_
  split
  · exact r.value _
  · refine r.seq h.connect fun o => ?_
    cases o with
    | ok u => exact r.seq (h.report _) fun _ => r.value _
    | error f => exact r.value _

theorem useSession (h : l.Obeys r) {body : S → Routine σ (Outcome α)}
    (hbody : ∀ s, r.holds (body s)) (session : S) : r.holds (l.useSession session body) := by
  refine r.seq (hbody session) fun o => ?_
  cases o with
  | ok a => exact r.value _
  | error f =>
      dsimp only
      split
      · refine r.seq (h.note _ _) fun _ => ?_
        refine r.seq (h.update _) fun _ => ?_
        exact r.seq (h.report _) fun _ => r.value _
      · exact r.value _

theorem executeUnlocked (h : l.Obeys r) {body : S → Routine σ (Outcome α)}
    (hbody : ∀ s, r.holds (body s)) : r.holds (l.executeUnlocked body) := by
  refine r.seq known fun status => ?_
  split
  · exact r.value _
  · refine r.seq h.ensureLive fun o => ?_
    cases o with
    | error f => exact r.value _
    | ok u =>
        refine r.seq known fun status' => ?_
        split
        · exact r.value _
        · exact h.useSession hbody _

/-! Both are done under the lock. -/

theorem init (h : l.Obeys inner) (hlocks : inner.Locks outer) : outer.holds l.init :=
  hlocks _ _ h.initUnlocked

theorem execute (h : l.Obeys inner) (hlocks : inner.Locks outer)
    {body : S → Routine σ (Outcome α)} (hbody : ∀ s, inner.holds (body s)) :
    outer.holds (l.execute body) :=
  hlocks _ _ (h.executeUnlocked hbody)

end ModbusLink.Obeys

end HomeEnergy
