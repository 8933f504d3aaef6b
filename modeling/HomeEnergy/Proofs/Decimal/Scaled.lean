import HomeEnergy.Proofs.Decimal.Digits
import HomeEnergy.Proofs.Decimal.Rounding

/-!
# Which numerals can be read

The scaled reading refuses a numeral only if its value is near the largest double or above it. What
it collects never exceeds the digits, and what it is then scaled by is exact up to rounding, so a
margin of four roundings is enough.

## Main results

* `Numeral.scale_isSome` — scaling.
* `Numeral.scaled_isSome` — the whole reading.
-/

namespace HomeEnergy.Numeral

open Rounding (slack greatest)

/-- The value of a numeral without its sign. -/
def magnitude (n : Numeral) : ℚ :=
  Decimal.value (n.whole ++ n.fraction) * 10 ^ (n.exponent - n.fraction.length)

/-- What is collected, with a zero for each digit left, is not above the number. -/
theorem collect_le {n d u : Nat} {ds : List Char} (h : collect n ds = (d, u)) :
    u ≤ ds.length ∧ d * 10 ^ u ≤ n * 10 ^ ds.length + Decimal.value ds := by
  induction ds generalizing n with
  | nil =>
      cases h
      exact ⟨le_refl _, le_refl _⟩
  | cons c rest ih =>
      simp only [collect] at h
      split at h
      · obtain ⟨hu, hd⟩ := ih h
        rw [Decimal.value_cons]
        exact ⟨hu.trans (Nat.le_succ _), hd⟩
      · cases h
        exact ⟨le_refl _, Nat.le_add_right _ _⟩

/-- A number of fewer than 65 bits is collected as a whole. -/
theorem collect_of_lt {n : Nat} {ds : List Char}
    (h : n * 10 ^ ds.length + Decimal.value ds < wordLimit) :
    collect n ds = (n * 10 ^ ds.length + Decimal.value ds, 0) := by
  induction ds generalizing n with
  | nil => simp [collect]
  | cons c rest ih =>
      rw [Decimal.value_cons] at h ⊢
      have hnext : 10 * n + (c.toNat - '0'.toNat) < wordLimit := by
        refine lt_of_le_of_lt ?_ h
        exact (Nat.le_mul_of_pos_right _ (Nat.pow_pos (by decide))).trans (Nat.le_add_right _ _)
      simp only [collect, if_pos hnext]
      exact ih h

theorem greatest_lt : greatest < 10 ^ 309 := by
  have hnat : (2 ^ 53 - 1) * 2 ^ 971 < 10 ^ 309 := by decide +kernel
  have hcast : (((2 ^ 53 - 1) * 2 ^ 971 : Nat) : ℚ) < ((10 ^ 309 : Nat) : ℚ) := by
    exact_mod_cast hnat
  calc greatest = (((2 ^ 53 - 1) * 2 ^ 971 : Nat) : ℚ) := by
        rw [Nat.cast_mul, Nat.cast_pow 2 971, Nat.cast_ofNat, ← zpow_natCast]
        rfl
    _ < 10 ^ 309 := by exact_mod_cast hcast

/-- Scaling fails only near the largest double or above it. -/
theorem scale_isSome {d : Nat} {k : Int} (h : (d : ℚ) * 10 ^ k * slack ^ 4 < greatest) :
    (scale (Float.ofScientific d false 0) k).isSome = true := by
  unfold scale
  by_cases hneg : k < 0
  · rw [if_pos hneg]
    rfl
  · rw [if_neg hneg]
    split
    · rfl
    · rename_i hzero
      have hd : d ≠ 0 := by
        rintro rfl
        exact hzero (by decide +kernel)
      obtain ⟨n, rfl⟩ := Int.eq_ofNat_of_zero_le (not_lt.1 hneg)
      rw [zpow_natCast] at h
      have hone : (1 : ℚ) ≤ d := by exact_mod_cast Nat.one_le_iff_ne_zero.2 hd
      have hslack := Rounding.one_le_slack
      have hn : n ≤ 308 := by
        by_contra hgt
        have hlarge : (10 : ℚ) ^ 309 ≤ d * 10 ^ n * slack ^ 4 := by
          calc (10 : ℚ) ^ 309 ≤ 10 ^ n := pow_le_pow_right₀ (by norm_num) (by omega)
            _ = 1 * 10 ^ n * 1 ^ 4 := by ring
            _ ≤ d * 10 ^ n * slack ^ 4 := by gcongr
        exact absurd (h.trans greatest_lt) (not_lt.2 hlarge)
      rw [if_neg (by omega)]
      simp only [Int.toNat_natCast, Rounding.not_inf_product hd hn h]
      rfl

/-- A numeral is read if its value is not near the largest double or above it. -/
theorem scaled_isSome {n : Numeral} (hwhole : Decimal.value n.whole < wordLimit)
    (hexponent : n.exponent ≤ exponentLimit) (h : n.magnitude * slack ^ 4 < greatest) :
    n.scaled.isSome = true := by
  have hcollect : collect 0 n.whole = (Decimal.value n.whole, 0) := by
    have hall : 0 * 10 ^ n.whole.length + Decimal.value n.whole < wordLimit := by
      rw [Nat.zero_mul, Nat.zero_add]
      exact hwhole
    rw [collect_of_lt hall, Nat.zero_mul, Nat.zero_add]
  obtain ⟨⟨d, u⟩, hdigits⟩ : ∃ digits, collect (Decimal.value n.whole) n.fraction = digits :=
    ⟨_, rfl⟩
  obtain ⟨hu, hd⟩ := collect_le hdigits
  rw [← Decimal.value_append] at hd
  have hmagnitude : (d : ℚ) * 10 ^ (n.exponent - (n.fraction.length - u)) ≤ n.magnitude := by
    have hcast : (d : ℚ) * 10 ^ u ≤ Decimal.value (n.whole ++ n.fraction) := by exact_mod_cast hd
    calc (d : ℚ) * 10 ^ (n.exponent - (n.fraction.length - u))
        = d * 10 ^ u * 10 ^ (n.exponent - n.fraction.length) := by
          rw [mul_assoc, ← zpow_natCast, ← zpow_add₀ (by norm_num)]
          congr 2
          ring
      _ ≤ n.magnitude := by
          unfold magnitude
          gcongr
  have hslack := Rounding.one_le_slack
  have hscale : (scale (Float.ofScientific d false 0)
      (n.exponent + (0 : Nat) - (n.fraction.length - u))).isSome = true := by
    rw [Nat.cast_zero, Int.add_zero]
    refine scale_isSome (lt_of_le_of_lt ?_ h)
    gcongr
  unfold scaled
  simp only [hcollect, hdigits, if_neg (not_lt.2 hexponent), apply_ite Option.isSome,
    Option.isSome_map, Option.isSome_some, hscale, ite_self]

end HomeEnergy.Numeral
