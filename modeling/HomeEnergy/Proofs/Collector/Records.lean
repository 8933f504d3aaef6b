import HomeEnergy.Proofs.Battery.Answer
import HomeEnergy.Proofs.Document.RoundTrip
import HomeEnergy.Proofs.Weather.Upload

/-!
# Records that can be read again

The records of all devices are flat: numbers and texts in a few nested maps and lists, with whole
numbers of 64 bits at most. So what a module puts into the cache is the text of a document, and
reads as one again.

## Main results

* `Document.Legible` — documents that can be read from their own bytes.
* `Inverter.legible_record`, `Stove.legible_record`, `Heating.legible_record`,
  `Weather.legible_record` — records of these kinds are legible, whatever their numbers are.
* `Battery.legible_of_read` — so are those that are read from answers of the battery.
-/

namespace HomeEnergy

/-- A document that can be read from its bytes. -/
def Document.Legible (d : Document) : Prop := (Json.readBytes (Json.bytes d)).isSome = true

namespace Document

theorem legible_of_fits (depth : Nat) {d : Document} (h : d.fits depth = true)
    (hdepth : depth < Json.depthLimit) : d.Legible := by
  unfold Legible
  rw [Json.readBytes_bytes h hdepth]
  rfl

theorem fitsItems_map {α : Type} {depth : Nat} {write : α → Document}
    (h : ∀ x, (write x).fits depth = true) (xs : List α) :
    fitsItems depth (xs.map write) = true := by
  induction xs with
  | nil => rfl
  | cons x rest ih =>
      rw [List.map_cons, fitsItems, h x, ih]
      rfl

end Document

open Document (legible_of_fits fitsItems_map fits fitsItems fitsMembers)

theorem Inverter.legible_record (r : Inverter.Record) : r.toDocument.Legible := by
  have houtput : ∀ o : Inverter.Output, o.toDocument.fits 1 = true := fun _ => rfl
  have hfits : r.toDocument.fits 3 = true := by
    simp only [Record.toDocument, Power.toDocument, EnergySources.toDocument, Storage.toDocument,
      fits, fitsMembers, Bool.and_true, Nat.reduceSub, Nat.reduceLT, decide_true, Bool.true_and]
    exact fitsItems_map houtput _
  exact legible_of_fits 3 hfits (by decide)

theorem Stove.legible_record (r : Stove.Record) : r.toDocument.Legible :=
  legible_of_fits 1 rfl (by decide)

theorem Heating.legible_record (r : Heating.Record) : r.toDocument.Legible :=
  legible_of_fits 1 rfl (by decide)

theorem Weather.legible_record {r : Weather.Record} (h : r.Taken) : r.toDocument.Legible :=
  legible_of_fits _ (fits_toDocument h) (by decide)

namespace Battery

theorem range_whole (x : Float) :
    -((Numeral.wordLimit / 2 : Nat) : Int) ≤ whole x ∧ whole x < (Numeral.wordLimit : Nat) := by
  have hlow := Int64.le_toInt x.toInt64
  have hhigh := Int64.toInt_lt x.toInt64
  have hlimit : Numeral.wordLimit = 2 ^ 64 := rfl
  unfold whole
  rw [hlimit]
  omega

/-- Numbers are cut off to whole ones of 64 bits. -/
theorem legible_recordOf (time : Timestamp) (x : Place → Float) :
    (recordOf time x).toDocument.Legible := by
  have hchannel : ∀ c : Channel, c.toDocument.fits 1 = true := fun _ => rfl
  have hfits : (recordOf time x).toDocument.fits 3 = true := by
    unfold Record.toDocument recordOf
    simp only [Power.toDocument, EnergySources.toDocument, Cells.toDocument,
      Totals.toDocument, System.toDocument, fitsItems_map hchannel, fits, fitsMembers, range_whole,
      and_self, Bool.and_true, Nat.reduceSub, Nat.reduceLT, decide_true]
  exact legible_of_fits 3 hfits (by decide)

/-- Readings of the battery are legible. -/
theorem legible_of_read {time : Timestamp} {answer : Document} {r : Record}
    (h : read time answer = .ok r) : r.toDocument.Legible := by
  rw [eq_recordOf h]
  exact legible_recordOf time _

end Battery

end HomeEnergy
