import HomeEnergy.Decimal.Single
import HomeEnergy.Proofs.Decimal.Rounding

/-!
# Widening loses nothing

A single-precision number and the double that it is widened to are the same number: both undefined,
both infinite or both zero with the same sign, or both finite with the same sign and the same value.

## Main results

* `Single.same_toFloat` — widening keeps every number.
-/

namespace HomeEnergy.Single

open Float.Model Float.Model.UnpackedFloat
open Rounding (dyadic)

/-- Two floating-point numbers are the same number, whatever their formats. -/
inductive Same : UnpackedFloat → UnpackedFloat → Prop
  | undefined : Same .notANumber .notANumber
  | infinite (sign : Sign) : Same (.infinity sign) (.infinity sign)
  | zero (sign : Sign) : Same (.zero sign) (.zero sign)
  | finite (sign : Sign) {m n : Nat} {e k : Int} (hm : 0 < m) (hn : 0 < n)
      (value : dyadic m e = dyadic n k) : Same (.finite sign m e hm) (.finite sign n k hn)

/-- A finite single-precision number has a significand of 24 bits at most, and an exponent far from
the ends of the exponents of doubles. -/
theorem bounds_of_unpack {a : BitVec 32} {sign : Sign} {m : Nat} {e : Int} {pos : 0 < m}
    (h : UnpackedFloat.unpack Format.binary32 a = .finite sign m e pos) :
    m < 2 ^ 24 ∧ -149 ≤ e ∧ e ≤ 104 := by
  have hfield : (@unpackExponent Format.binary32 a).toNat < 2 ^ 8 := BitVec.isLt _
  have hfraction : (@unpackMantissa Format.binary32 a).toNat < 2 ^ 23 := BitVec.isLt _
  have hbias : (Format.binary32.exponentBias : Int)
      + (Format.binary32.mantissaBitsWithoutImplicit : Int) = 150 := rfl
  unfold UnpackedFloat.unpack at h
  dsimp only at h
  split at h
  · split at h <;> cases h
  · rename_i hmax
    have hmax' : (@unpackExponent Format.binary32 a).toNat ≠ 2 ^ 8 - 1 :=
      fun heq => hmax (BitVec.eq_of_toNat_eq heq)
    split at h
    · rename_i hzero
      split at h
      · cases h
      · cases h
        rw [hbias, hzero]
        exact ⟨hfraction.trans (by decide), by decide, by decide⟩
    · rename_i hnormal
      have hnormal' : (@unpackExponent Format.binary32 a).toNat ≠ 0 :=
        fun heq => hnormal (BitVec.eq_of_toNat_eq heq)
      cases h
      rw [hbias]
      exact ⟨BitVec.isLt _, by omega, by omega⟩

/-- Filling up the significand of a number that has at most 53 bits. -/
theorem filled_finite (sign : Sign) {m : Nat} (e : Int) (pos : 0 < m) (hm : m < 2 ^ 53) :
    ∃ n k pos', filled (.finite sign m e pos) = .finite sign n k pos' ∧
      2 ^ 52 ≤ n ∧ n < 2 ^ 53 ∧ e - 52 ≤ k ∧ k ≤ e ∧ dyadic m e = dyadic n k := by
  obtain ⟨hlog, hlow, hhigh⟩ := Rounding.lead_shifted (by omega : m ≠ 0) hm
  refine ⟨_, _, _, rfl, hlow, hhigh, by omega, by omega, ?_⟩
  have hshift := Rounding.dyadic_add m (e - (52 - m.log2 : Nat)) (52 - m.log2)
  rwa [Int.sub_add_cancel] at hshift

/-- Widening keeps every number. -/
theorem same_toFloat (x : Float32) : Same x.toModel.unpack (toFloat x).toModel.unpack := by
  show Same x.toModel.unpack (Float.Model.pack (filled x.toModel.unpack)).unpack
  cases hx : x.toModel.unpack with
  | notANumber =>
      have hunpack : (Float.Model.pack .notANumber).unpack = .notANumber := unpack_packedNaN
      exact hunpack ▸ .undefined
  | infinity sign => cases sign <;> exact .infinite _
  | zero sign => cases sign <;> exact .zero _
  | finite sign m e pos =>
      obtain ⟨hm, hlow, hhigh⟩ := bounds_of_unpack hx
      obtain ⟨n, k, pos', hfilled, hn, hn', hk, hk', hvalue⟩ :=
        filled_finite sign e pos (hm.trans (by decide))
      rw [hfilled, Rounding.unpack_pack sign pos' hn hn' (by omega) (by omega)]
      exact .finite sign pos pos' hvalue

end HomeEnergy.Single
