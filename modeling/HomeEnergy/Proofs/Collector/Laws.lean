import HomeEnergy.Collector
import HomeEnergy.Proofs.Polling.Laws

/-!
# Laws that devices and tables obey

The devices of a collector obey a law if the connections to them do, and its tables if the database
does. The heating controller is used under the lock.

## Main results

* `Inverter.obeys_source`, `Battery.obeys_source`, `Stove.obeys_source`, `Heating.obeys_source` —
  the devices.
* `Heating.obeys_rooms` — the action that hands on the room temperature.
* `Store.Table.obeys_place` — the tables.
-/

namespace HomeEnergy

open Routine (Part Law)

variable {σ S : Type} {r inner outer : Law σ} {name : String}

theorem obeys_moment : r.holds moment := r.seq r.now fun _ => r.value _

theorem Inverter.obeys_source {powerFlow storage : HttpLink σ} (hp : powerFlow.Obeys r)
    (hs : storage.Obeys r) : (Inverter.source name powerFlow storage).Obeys r where
  init := by
    refine r.seq hp.init fun o => ?_
    cases o with
    | error f => exact r.value _
    | ok u => exact hs.init
  query := by
    refine r.seq (hp.execute fun _ => r.value _) fun o => ?_
    cases o with
    | error f => exact r.value _
    | ok flow =>
        refine r.seq (hs.execute fun _ => r.value _) fun o => ?_
        cases o with
        | error f => exact r.value _
        | ok answer => exact r.seq obeys_moment fun _ => r.value _

theorem Battery.obeys_source {link : HttpLink σ} (h : link.Obeys r) :
    (Battery.source name link).Obeys r where
  init := h.init
  query := h.execute fun _ => r.seq obeys_moment fun _ => r.value _

theorem Stove.obeys_source {link : HttpLink σ} (h : link.Obeys r) :
    (Stove.source name link).Obeys r where
  init := h.init
  query := h.execute fun _ => r.seq obeys_moment fun _ => r.value _

namespace Heating

theorem obeys_readBlocks {c : Controller σ S} (h : c.Obeys r) (session : S) :
    r.holds (readBlocks c session) := by
  refine r.seq (h.readHolding _ _ _) fun o => ?_
  cases o with
  | error f => exact r.value _
  | ok temperatures =>
      refine r.seq (h.readHolding _ _ _) fun o => ?_
      cases o with
      | error f => exact r.value _
      | ok powers => exact r.value _

theorem obeys_source {link : ModbusLink σ S} (h : link.Obeys inner) (hlocks : inner.Locks outer) :
    (source name link).Obeys outer where
  init := h.init hlocks
  query := by
    refine outer.seq (h.execute hlocks (obeys_readBlocks h.controller)) fun o => ?_
    cases o with
    | error f => exact outer.value _
    | ok blocks => exact outer.seq obeys_moment fun _ => outer.value _

theorem obeys_writeEach {c : Controller σ S} (h : c.Obeys r) (session : S) (word : UInt16)
    (addresses : List Nat) : r.holds (writeEach c session word addresses) := by
  induction addresses with
  | nil => exact r.value _
  | cons address rest ih =>
      refine r.seq (h.writeSingle _ _ _) fun o => ?_
      cases o with
      | error f => exact r.value _
      | ok u => exact ih

theorem obeys_rooms {s : RoomSettings} {link : ModbusLink σ S} {cache : Part σ Cache}
    (h : link.Obeys inner) (hlocks : inner.Locks outer) : (rooms s link cache).Obeys outer where
  init := h.init hlocks
  apply := by
    refine outer.seq outer.look fun s => ?_
    split
    · exact outer.value _
    · exact h.execute hlocks fun _ => obeys_writeEach h.controller _ _ _

end Heating

/-- The answers of the receiver. -/
theorem Receiver.obeys_answer {v : Receiver σ} (hwrite : ∀ x, r.holds (v.sink.write x))
    (hledger : v.ledger.Obeys r v.settings.name) (query : String) : r.holds (v.answer query) := by
  refine r.seq ?_ fun o => ?_
  · refine r.seq (r.seq obeys_moment fun time => ?_) fun o => ?_
    · split
      · exact r.value _
      · refine r.seq (hledger.store _) fun o => ?_
        cases o with
        | error f => exact r.value _
        | ok u => exact r.value _
    · cases o with
      | error f => exact r.seq (hledger.count _) fun _ => r.value _
      | ok record =>
          refine r.seq (hwrite _) fun _ => ?_
          exact r.seq (hledger.count _) fun _ => r.value _
  · cases o with
    | error f => exact r.value _
    | ok u => exact r.value _

namespace Store

/-- What a database does obeys a law. -/
structure Database.Obeys (r : Law σ) (db : Database σ) : Prop where
  run : ∀ statement, r.holds (db.run statement)
  begin : r.holds db.begin
  within : ∀ statement, r.holds (db.within statement)
  commit : r.holds db.commit
  rollback : r.holds db.rollback

theorem Database.Obeys.prepare {db : Database σ} (h : db.Obeys r) (statements : List Statement) :
    r.holds (db.prepare statements) := by
  induction statements with
  | nil => exact r.value _
  | cons statement rest ih =>
      refine r.seq (h.run _) fun o => ?_
      cases o with
      | error e => exact r.value _
      | ok u => exact ih

theorem Database.Obeys.transact {db : Database σ} (h : db.Obeys r) (statement : Statement) :
    r.holds (db.transact statement) := by
  refine r.seq h.begin fun o => ?_
  cases o with
  | error e => exact r.value _
  | ok u =>
      refine r.seq (h.within _) fun o => ?_
      cases o with
      | ok u => exact r.seq h.commit fun _ => r.value _
      | error e => exact r.seq h.rollback fun _ => r.value _

theorem Table.obeys_place {ρ : Type} {db : Option (Database σ)} (h : ∀ d ∈ db, d.Obeys r)
    (t : Table ρ) : (t.place db).Obeys r := by
  cases db with
  | none => exact ⟨r.value _, fun _ => r.value _⟩
  | some d => exact ⟨(h d rfl).prepare _, fun _ => (h d rfl).transact _⟩

end Store

end HomeEnergy
