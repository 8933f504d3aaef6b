import HomeEnergy.Module
import HomeEnergy.Proofs.Link.Laws

/-!
# Laws that modules obey

A poller and an updater change a state through the device and the sink on their two sides, in the
cache and the counts under their own name, and in what they know of their task. Where each of these
obeys a law, so do their rounds and initializations. If the law is that changes are of one kind,
nothing in the life of a module breaks it.

## Main results

* `Poller.obeys_cycle`, `Updater.obeys_cycle`, `Poller.obeys_init`, `Updater.obeys_init` — any law.
* `Poller.keeps_toModule`, `Updater.keeps_toModule` — each change of a module.
-/

namespace HomeEnergy

open Routine (Part Law keeps_do keeps_change keeps_pure keeps_look)

variable {σ ρ : Type} {r : Law σ} {R : σ → σ → Prop}

/-! ## What modules are made of -/

/-- What a device does obeys a law. -/
structure Source.Obeys (r : Law σ) (s : Source σ ρ) : Prop where
  init : r.holds s.init
  query : r.holds s.query

/-- What a place for records does obeys a law. -/
structure Sink.Obeys (r : Law σ) (k : Sink σ ρ) : Prop where
  prepare : r.holds k.prepare
  write : ∀ record, r.holds (k.write record)

/-- What an action does obeys a law. -/
structure Action.Obeys (r : Law σ) (a : Action σ) : Prop where
  init : r.holds a.init
  apply : r.holds a.apply

/-- What is done to the cache and the counts under a name obeys a law. -/
structure Ledger.Obeys (r : Law σ) (l : Ledger σ) (name : String) : Prop where
  count : ∀ answer, r.holds (l.count name answer)
  put : ∀ payload, r.holds (.change (l.cache.modify (·.put name payload)))

theorem Ledger.Obeys.store {l : Ledger σ} {name : String} (h : l.Obeys r name)
    (document : Outcome Document) : r.holds (l.store name document) := by
  cases document with
  | error f => exact r.value _
  | ok d => exact r.seq (h.put _) fun _ => r.value _

/-! ## Rounds and initializations -/

namespace Poller

variable {p : Poller σ ρ}

theorem obeys_cycle (hquery : r.holds p.source.query) (hwrite : ∀ x, r.holds (p.sink.write x))
    (hledger : p.ledger.Obeys r p.source.name) : r.holds p.cycle := by
  refine r.seq hquery fun o => ?_
  cases o with
  | error f => exact r.seq (hledger.count _) fun _ => r.value _
  | ok record =>
      refine r.seq (hledger.count _) fun _ => ?_
      refine r.seq (hledger.store _) fun stored => ?_
      cases stored with
      | error f => exact r.value _
      | ok u => exact hwrite record

theorem obeys_init (hprepare : r.holds p.sink.prepare) (hinit : r.holds p.source.init)
    (hworker : ∀ f, r.holds (.change (p.worker.modify f))) : r.holds p.init := by
  refine r.seq hprepare fun o => ?_
  cases o with
  | error f => exact r.value _
  | ok u =>
      refine r.seq hinit fun o => ?_
      cases o with
      | error f => exact r.value _
      | ok u => exact r.seq (hworker _) fun _ => r.value _

end Poller

namespace Updater

variable {u : Updater σ}

theorem obeys_cycle (happly : r.holds u.action.apply) (hledger : u.ledger.Obeys r u.action.name) :
    r.holds u.cycle := by
  refine r.seq happly fun o => ?_
  cases o with
  | error f => exact r.seq (hledger.count _) fun _ => r.value _
  | ok _ => exact r.seq (hledger.count _) fun _ => r.value _

theorem obeys_init (hinit : r.holds u.action.init)
    (hworker : ∀ f, r.holds (.change (u.worker.modify f))) : r.holds u.init := by
  refine r.seq hinit fun o => ?_
  cases o with
  | error f => exact r.value _
  | ok _ => exact r.seq (hworker _) fun _ => r.value _

end Updater

/-! ## Whole lives -/

/-- Each change of a module is of one kind. -/
structure Module.Keeps (R : σ → σ → Prop) (m : Module σ) : Prop where
  init : m.init.Keeps R
  start : m.start.Keeps R
  abort : m.abort.Keeps R
  wait : m.wait.Keeps R
  round : m.body.round.Keeps R

namespace Worker

variable {part : Part σ Worker}

theorem keeps_start (hrefl : ∀ s, R s s) (hpart : ∀ f s, R s (part.modify f s)) (task : Nat) :
    (start part task).Keeps R := by
  refine keeps_do (keeps_look hrefl) fun s => ?_
  split
  · exact keeps_pure _
  · refine keeps_do trivial fun _ => ?_
    exact keeps_do (keeps_change (hpart _)) fun _ => keeps_pure _

theorem keeps_wait (hrefl : ∀ s, R s s) (hpart : ∀ f s, R s (part.modify f s)) :
    (wait part).Keeps R := by
  refine keeps_do (keeps_look hrefl) fun s => ?_
  split
  · exact keeps_do trivial fun _ => keeps_change (hpart _)
  · exact keeps_change (hpart _)

theorem keeps_abort (hrefl : ∀ s, R s s) (hpart : ∀ f s, R s (part.modify f s)) :
    (abort part).Keeps R := by
  refine keeps_do (keeps_look hrefl) fun s => ?_
  dsimp only
  split
  · exact keeps_pure _
  · refine keeps_do (keeps_change (hpart _)) fun _ => ?_
    split
    · exact keeps_do trivial fun _ => keeps_wait hrefl hpart
    · exact keeps_wait hrefl hpart

end Worker

section Lives

variable {hrefl : ∀ s, R s s}

/-- Each change of a poller. -/
theorem Poller.keeps_toModule {p : Poller σ ρ} (hsource : p.source.Obeys (.keeps hrefl))
    (hsink : p.sink.Obeys (.keeps hrefl)) (hledger : p.ledger.Obeys (.keeps hrefl) p.source.name)
    (hworker : ∀ f s, R s (p.worker.modify f s)) : p.toModule.Keeps R where
  init := Poller.obeys_init hsink.prepare hsource.init fun f => keeps_change (hworker f)
  start := Worker.keeps_start hrefl hworker _
  abort := Worker.keeps_abort hrefl hworker
  wait := Worker.keeps_wait hrefl hworker
  round := keeps_do (Poller.obeys_cycle hsource.query hsink.write hledger) fun _ => keeps_pure _

/-- Each change of an updater. -/
theorem Updater.keeps_toModule {u : Updater σ} (haction : u.action.Obeys (.keeps hrefl))
    (hledger : u.ledger.Obeys (.keeps hrefl) u.action.name)
    (hworker : ∀ f s, R s (u.worker.modify f s)) : u.toModule.Keeps R where
  init := Updater.obeys_init haction.init fun f => keeps_change (hworker f)
  start := Worker.keeps_start hrefl hworker _
  abort := Worker.keeps_abort hrefl hworker
  wait := Worker.keeps_wait hrefl hworker
  round := keeps_do (Updater.obeys_cycle haction.apply hledger) fun _ => keeps_pure _

end Lives

end HomeEnergy
