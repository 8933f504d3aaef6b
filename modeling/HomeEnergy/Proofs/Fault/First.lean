import HomeEnergy.Fault
import Mathlib

/-!
# The first fault decides

A record is put together from many readings, one after the other, and the first of them that fails
ends the whole. What it comes to is told by the row of their faults alone, in their order.

## Main results

* `Outcome.bind_first`, `Outcome.mapM_first` — readings in sequence.
* `Outcome.first_eq_ok`, `Outcome.first_eq_error` — what a row of faults comes to.
-/

namespace HomeEnergy.Outcome

variable {α β ι : Type}

/-- What readings come to whose faults stand in a row: the first fault, or a result if there is
none. -/
def first (faults : List (Option Fault)) (a : α) : Outcome α :=
  match faults.findSome? id with
  | some f => .error f
  | none => .ok a

/-- There is a result if there is no fault at all. -/
theorem first_eq_ok {faults : List (Option Fault)} {a b : α} :
    first faults a = .ok b ↔ (∀ f ∈ faults, f = none) ∧ a = b := by
  unfold first
  rw [← show faults.findSome? id = none ↔ ∀ f ∈ faults, f = none from List.findSome?_eq_none_iff]
  cases faults.findSome? id with
  | none => simp
  | some f => simp

/-- A fault is that of the first reading that fails. -/
theorem first_eq_error {fault? : ι → Option Fault} {readings : List ι} {a : α} {f : Fault} :
    first (readings.map fault?) a = .error f ↔ ∃ before i after, readings = before ++ i :: after ∧
      fault? i = some f ∧ ∀ j ∈ before, fault? j = none := by
  unfold first
  rw [List.findSome?_map, Function.id_comp, ← List.findSome?_eq_some_iff]
  cases readings.findSome? fault? with
  | none => simp
  | some g => simp

theorem map_first (f : α → β) (faults : List (Option Fault)) (a : α) :
    f <$> first faults a = first faults (f a) := by
  unfold first
  cases faults.findSome? id <;> rfl

/-- Readings that go on after others come to what the faults of both come to. -/
theorem bind_first {x : Outcome α} {k : α → Outcome β} {faults more : List (Option Fault)} {a : α}
    {b : β} (hx : x = first faults a) (hk : k a = first more b) :
    (x >>= k) = first (faults ++ more) b := by
  subst hx
  unfold first at hk ⊢
  rw [List.findSome?_append]
  cases faults.findSome? id with
  | none => exact hk
  | some f => rfl

/-- The same readings for each item of a list. -/
theorem mapM_first {read : ι → Outcome α} {faults : ι → List (Option Fault)} {result : ι → α}
    (h : ∀ i, read i = first (faults i) (result i)) (l : List ι) :
    l.mapM read = first (l.flatMap faults) (l.map result) := by
  induction l with
  | nil => rfl
  | cons i l ih =>
      rw [List.mapM_cons, List.flatMap_cons, List.map_cons]
      refine bind_first (h i) ?_
      rw [← List.append_nil (l.flatMap faults)]
      exact bind_first ih rfl

end HomeEnergy.Outcome
