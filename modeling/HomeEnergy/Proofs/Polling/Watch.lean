import HomeEnergy.Module.Poller
import HomeEnergy.Proofs.Routine.Amid

/-!
# A poller under watch

What a poller does to the devices on its two sides is seen from the outside as a row of deeds: it
gets answers to its queries, hands records to the sink, and gets answers from there.
`PollerWatch.poller` is a poller between an arbitrary device and an arbitrary sink whose every deed
is written down, in order, and with each record that is handed on, what the cache holds at that
moment.

Other modules share the cache and the metrics with the poller and act between its steps. They keep
away from its own entry and its own counts: `PollerWatch.Apart`.

## Main results

* `PollerWatch.ends_query`, `PollerWatch.ends_write` — what the poller does on its two sides.
* `PollerWatch.interference_apart` — what others do adds up.
-/

namespace HomeEnergy

open Routine (Part)

/-- What a poller does. -/
inductive PollDeed (ρ : Type) where
  /-- It gets an answer to a query. -/
  | queried (answer : Outcome ρ)
  /-- It hands a record to the sink, while this is its entry in the cache. -/
  | handed (record : ρ) (entry : Option ByteArray)
  /-- It gets an answer from the sink. -/
  | answered (answer : Outcome Unit)

/-- A poller with all that it works on, and what it has done. -/
structure PollerWatch (δ ρ : Type) where
  cache : Cache := .empty
  metrics : Metrics := .empty
  worker : Worker
  device : δ
  /-- In the order in which they were done. -/
  deeds : List (PollDeed ρ) := []

variable {δ ρ : Type}

namespace PollerWatch

/-- Write down a deed. -/
def note (d : PollDeed ρ) (w : PollerWatch δ ρ) : PollerWatch δ ρ :=
  { w with deeds := w.deeds ++ [d] }

/-- The device and the sink. -/
def devicePart : Part (PollerWatch δ ρ) δ := ⟨PollerWatch.device, fun d w => { w with device := d }⟩

/-- The cache and the metrics. -/
def ledger : Ledger (PollerWatch δ ρ) where
  cache := ⟨PollerWatch.cache, fun c w => { w with cache := c }⟩
  metrics := ⟨PollerWatch.metrics, fun m w => { w with metrics := m }⟩

/-- A device under watch. -/
def source (s : Source δ ρ) : Source (PollerWatch δ ρ) ρ where
  name := s.name
  init := s.init.within devicePart
  query := do
    let answer ← s.query.within devicePart
    .change (note (.queried answer))
    return answer

/-- A sink under watch. -/
def sink (name : String) (k : Sink δ ρ) : Sink (PollerWatch δ ρ) ρ where
  prepare := k.prepare.within devicePart
  write x := do
    .change fun w => note (.handed x (w.cache.get? name)) w
    let answer ← (k.write x).within devicePart
    .change (note (.answered answer))
    return answer

/-- A poller under watch. -/
def poller (s : Source δ ρ) (k : Sink δ ρ) (write : ρ → Outcome Document) (interval : Span)
    (task : Nat) : Poller (PollerWatch δ ρ) ρ where
  source := source s
  sink := sink s.name k
  ledger
  write
  interval
  worker := ⟨PollerWatch.worker, fun v w => { w with worker := v }⟩
  task

/-! ## What others do -/

/-- What others may do while the module with a name polls. They neither touch its entry in the cache
nor count its queries, and they leave some other entries alone as well. -/
structure Apart (name : String) (spared : String → Prop) (w w' : PollerWatch δ ρ) : Prop where
  deeds : w'.deeds = w.deeds
  entry : w'.cache.get? name = w.cache.get? name
  others : ∀ m, spared m → w'.cache.get? m = w.cache.get? m
  counts : ∀ r, w'.metrics.queryCount name r = w.metrics.queryCount name r

variable {name : String} {spared : String → Prop}

theorem Apart.refl (w : PollerWatch δ ρ) : Apart name spared w w :=
  ⟨rfl, rfl, fun _ _ => rfl, fun _ => rfl⟩

theorem Apart.trans {u v w : PollerWatch δ ρ} (h : Apart name spared u v)
    (h' : Apart name spared v w) : Apart name spared u w where
  deeds := h'.deeds.trans h.deeds
  entry := h'.entry.trans h.entry
  others m hm := (h'.others m hm).trans (h.others m hm)
  counts r := (h'.counts r).trans (h.counts r)

theorem interference_apart :
    Routine.Interference (Apart name spared (δ := δ) (ρ := ρ)) where
  refl := Apart.refl
  trans := Apart.trans

/-- What the device and the sink do to themselves is nothing to the poller. -/
theorem apart_of_device {α : Type} {p : Routine δ α} {w w' : PollerWatch δ ρ} {a : α}
    (h : (p.within devicePart).EndsAmid (Apart name spared) w a w') : Apart name spared w w' := by
  apply Routine.amid_of_endsAmid_within interference_apart _ h
  intro f v
  exact ⟨rfl, rfl, fun _ _ => rfl, fun _ => rfl⟩

/-! ## The two sides of a poller -/

theorem ends_query {s : Source δ ρ} {w w' : PollerWatch δ ρ} {answer : Outcome ρ}
    (h : (source s).query.EndsAmid (Apart name spared) w answer w') :
    ∃ u, Apart name spared w u ∧ Apart name spared (note (.queried answer) u) w' := by
  obtain ⟨a, v, hquery, h⟩ := (Routine.endsAmid_do interference_apart).1 h
  obtain ⟨_, v', hnote, rfl, hafter⟩ := (Routine.endsAmid_do interference_apart).1 h
  obtain ⟨u, hbefore, hnoted⟩ := Routine.endsAmid_change.1 hnote
  exact ⟨u, (apart_of_device hquery).trans hbefore, hnoted.trans hafter⟩

theorem ends_write {k : Sink δ ρ} {x : ρ} {w w' : PollerWatch δ ρ} {answer : Outcome Unit}
    (h : ((sink name k).write x).EndsAmid (Apart name spared) w answer w') :
    ∃ u v, Apart name spared w u ∧
      Apart name spared (note (.handed x (u.cache.get? name)) u) v ∧
      Apart name spared (note (.answered answer) v) w' := by
  obtain ⟨_, v₁, hhand, h⟩ := (Routine.endsAmid_do interference_apart).1 h
  obtain ⟨a, v₂, hwrite, h⟩ := (Routine.endsAmid_do interference_apart).1 h
  obtain ⟨_, v₃, hnote, rfl, hafter⟩ := (Routine.endsAmid_do interference_apart).1 h
  obtain ⟨u, hbefore, hhanded⟩ := Routine.endsAmid_change.1 hhand
  obtain ⟨v, hbetween, hnoted⟩ := Routine.endsAmid_change.1 hnote
  have hwritten := (hhanded.trans (apart_of_device hwrite)).trans hbetween
  exact ⟨u, v, hbefore, hwritten, hnoted.trans hafter⟩

end PollerWatch

end HomeEnergy
