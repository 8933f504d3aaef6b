import HomeEnergy.Decimal.Shortest
import Mathlib.Algebra.Order.Field.Power
import Mathlib.Algebra.Order.Ring.Rat
import Mathlib.Tactic.Linarith
import Mathlib.Tactic.NormNum
import Mathlib.Tactic.Positivity
import Mathlib.Tactic.Ring

/-!
# The digits that the search finds

The search for the shortest digits goes through grids of ever finer step. A grid whose step is at
most a quarter of the last place of the double has a point in its interval, and one of the twenty
grids that are looked at is that fine. So the search always finds a point of the interval: a number
that is not zero, and not above the upper end.

## Main results

* `Shortest.onGrid_isSome` — a grid that is fine enough.
* `Shortest.search_eq` — what the search ends with is a point of one of the grids.
* `Shortest.digits_bounds` — the digits of a positive double.
-/

namespace HomeEnergy.Shortest

/-! ## The fractions behind the search -/

/-- The rational number that a pair stands for. -/
def Ratio.value (r : Ratio) : ℚ := r.num / r.den

theorem Ratio.scaled_den_pos (n : Nat) (e : Int) : 0 < (Ratio.scaled n e).den := by
  unfold Ratio.scaled
  split
  · exact Nat.one_pos
  · exact Nat.two_pow_pos _

theorem Ratio.perPowerOfTen_den_pos {r : Ratio} (h : 0 < r.den) (k : Int) :
    0 < (r.perPowerOfTen k).den := by
  unfold Ratio.perPowerOfTen
  split
  · exact Nat.mul_pos h (Nat.pow_pos (by decide))
  · exact h

theorem Ratio.value_scaled (n : Nat) (e : Int) : (Ratio.scaled n e).value = n * 2 ^ e := by
  unfold Ratio.scaled Ratio.value
  split
  · rename_i he
    obtain ⟨k, rfl⟩ := Int.eq_ofNat_of_zero_le he
    simp
  · rename_i he
    obtain ⟨k, rfl⟩ : ∃ k : Nat, e = -k := ⟨e.natAbs, by omega⟩
    simp [div_eq_mul_inv]

theorem Ratio.value_perPowerOfTen (r : Ratio) (k : Int) :
    (r.perPowerOfTen k).value = r.value / 10 ^ k := by
  unfold Ratio.perPowerOfTen Ratio.value
  split
  · rename_i hk
    obtain ⟨j, rfl⟩ := Int.eq_ofNat_of_zero_le hk
    simp [div_div]
  · rename_i hk
    obtain ⟨j, rfl⟩ : ∃ j : Nat, k = -j := ⟨k.natAbs, by omega⟩
    simp
    ring

/-- The number `n * 2 ^ e`, counted in steps of `10 ^ k`. -/
abbrev steps (n : Nat) (e k : Int) : Ratio := (Ratio.scaled n e).perPowerOfTen k

theorem steps_den_pos (n : Nat) (e k : Int) : 0 < (steps n e k).den :=
  Ratio.perPowerOfTen_den_pos (Ratio.scaled_den_pos n e) k

theorem value_steps (n : Nat) (e k : Int) : (steps n e k).value = n * 2 ^ e / 10 ^ k := by
  rw [Ratio.value_perPowerOfTen, Ratio.value_scaled]

theorem Ratio.num_le_iff {r : Ratio} (h : 0 < r.den) (n : Nat) :
    r.num ≤ n * r.den ↔ r.value ≤ n := by
  have hden : (0 : ℚ) < r.den := by exact_mod_cast h
  rw [Ratio.value, div_le_iff₀ hden]
  norm_cast

theorem Ratio.le_num_iff {r : Ratio} (h : 0 < r.den) (n : Nat) :
    n * r.den ≤ r.num ↔ n ≤ r.value := by
  have hden : (0 : ℚ) < r.den := by exact_mod_cast h
  rw [Ratio.value, le_div_iff₀ hden]
  norm_cast

theorem Ratio.num_lt_iff {r : Ratio} (h : 0 < r.den) (n : Nat) :
    r.num < n * r.den ↔ r.value < n := by
  rw [← not_le, ← not_le, Ratio.le_num_iff h]

theorem Ratio.lt_num_iff {r : Ratio} (h : 0 < r.den) (n : Nat) :
    n * r.den < r.num ↔ n < r.value := by
  rw [← not_le, ← not_le, Ratio.num_le_iff h]

/-! ## Points of a grid -/

variable {i : Interval} {n : Nat} {k : Int}

theorem ten_zpow_pos (k : Int) : (0 : ℚ) < 10 ^ k := zpow_pos (by norm_num) k

/-- A point that is taken lies between the ends. -/
theorem between_of_contains (h : i.contains n k = true) :
    (i.low : ℚ) * 2 ^ i.exponent ≤ n * 10 ^ k ∧ (n : ℚ) * 10 ^ k ≤ i.high * 2 ^ i.exponent := by
  have hlow := steps_den_pos i.low i.exponent k
  have hhigh := steps_den_pos i.high i.exponent k
  have hle : (steps i.low i.exponent k).value ≤ n ∧ n ≤ (steps i.high i.exponent k).value := by
    unfold Interval.contains at h
    split at h <;> simp only [Bool.and_eq_true, decide_eq_true_eq] at h
    · exact ⟨(Ratio.num_le_iff hlow n).1 h.1, (Ratio.le_num_iff hhigh n).1 h.2⟩
    · exact ⟨((Ratio.num_lt_iff hlow n).1 h.1).le, ((Ratio.lt_num_iff hhigh n).1 h.2).le⟩
  rw [value_steps, value_steps, div_le_iff₀ (ten_zpow_pos k), le_div_iff₀ (ten_zpow_pos k)] at hle
  exact hle

/-- A point strictly between the ends is taken. -/
theorem contains_of_between (hlow : (i.low : ℚ) * 2 ^ i.exponent < n * 10 ^ k)
    (hhigh : (n : ℚ) * 10 ^ k < i.high * 2 ^ i.exponent) : i.contains n k = true := by
  have hdlow := steps_den_pos i.low i.exponent k
  have hdhigh := steps_den_pos i.high i.exponent k
  rw [← div_lt_iff₀ (ten_zpow_pos k), ← value_steps, ← Ratio.num_lt_iff hdlow] at hlow
  rw [← lt_div_iff₀ (ten_zpow_pos k), ← value_steps, ← Ratio.lt_num_iff hdhigh] at hhigh
  unfold Interval.contains
  split <;> simp only [Bool.and_eq_true, decide_eq_true_eq]
  · exact ⟨hlow.le, hhigh.le⟩
  · exact ⟨hlow, hhigh⟩

/-- Two points are looked at, and one of them is the point below the double. -/
theorem onGrid_eq (i : Interval) (k : Int) : ∃ first second,
    (first = (steps i.mid i.exponent k).num / (steps i.mid i.exponent k).den ∨
      second = (steps i.mid i.exponent k).num / (steps i.mid i.exponent k).den) ∧
    i.onGrid k = if i.contains first k then some first
      else if i.contains second k then some second else none := by
  unfold Interval.onGrid
  dsimp only
  generalize (_ || _ : Bool) = preferBelow
  cases preferBelow
  · exact ⟨_, _, .inr rfl, rfl⟩
  · exact ⟨_, _, .inl rfl, rfl⟩

theorem contains_of_onGrid (h : i.onGrid k = some n) : i.contains n k = true := by
  obtain ⟨first, second, -, heq⟩ := onGrid_eq i k
  rw [heq] at h
  split at h
  · cases h
    assumption
  · split at h
    · cases h
      assumption
    · cases h

/-- The grid point below the double is taken if the step is small. -/
theorem onGrid_isSome (hlow : i.low < i.mid) (hhigh : i.mid < i.high)
    (hstep : (10 : ℚ) ^ k ≤ 2 ^ i.exponent) : (i.onGrid k).isSome = true := by
  obtain ⟨v, hv⟩ : ∃ v, v = steps i.mid i.exponent k := ⟨_, rfl⟩
  have hden : 0 < v.den := hv ▸ steps_den_pos i.mid i.exponent k
  have hvalue : v.value * 10 ^ k = i.mid * 2 ^ i.exponent := by
    rw [hv, value_steps, div_mul_cancel₀ _ (ten_zpow_pos k).ne']
  have hbelow : ((v.num / v.den : Nat) : ℚ) ≤ v.value :=
    (Ratio.le_num_iff hden _).1 (Nat.div_mul_le_self _ _)
  have habove : v.value < ((v.num / v.den : Nat) : ℚ) + 1 := by
    have hlt := (Ratio.num_lt_iff hden (v.num / v.den + 1)).1 (by
      rw [Nat.add_mul, Nat.one_mul]
      exact Nat.lt_div_mul_add hden)
    exact_mod_cast hlt
  have htwo : (0 : ℚ) < 2 ^ i.exponent := zpow_pos two_pos _
  have hcontains : i.contains (v.num / v.den) k = true := by
    refine contains_of_between ?_ ?_
    · have hcast : (i.low : ℚ) + 1 ≤ i.mid := by exact_mod_cast hlow
      calc (i.low : ℚ) * 2 ^ i.exponent ≤ (i.mid - 1) * 2 ^ i.exponent := by
            gcongr
            linarith
        _ = v.value * 10 ^ k - 2 ^ i.exponent := by
            rw [hvalue]
            ring
        _ ≤ v.value * 10 ^ k - 10 ^ k := by linarith
        _ = (v.value - 1) * 10 ^ k := by ring
        _ < (v.num / v.den : Nat) * 10 ^ k := by
            gcongr
            linarith
    · calc ((v.num / v.den : Nat) : ℚ) * 10 ^ k ≤ v.value * 10 ^ k := by gcongr
        _ = i.mid * 2 ^ i.exponent := hvalue
        _ < i.high * 2 ^ i.exponent := by gcongr
  obtain ⟨first, second, hmem, heq⟩ := onGrid_eq i k
  rw [← hv] at hmem
  rw [heq]
  split
  · rfl
  · rename_i hfirst
    rcases hmem with rfl | rfl
    · exact absurd hcontains hfirst
    · rw [if_pos hcontains]
      rfl

/-! ## The search -/

/-- The search ends at a grid point if one of the grids that it goes through has one. -/
theorem search_eq (fuel : Nat) (h : ∃ j < fuel, (i.onGrid (k - j)).isSome = true) :
    ∃ n k', search i k fuel = (n, k') ∧ i.onGrid k' = some n := by
  induction fuel generalizing k with
  | zero =>
      obtain ⟨j, hj, -⟩ := h
      omega
  | succ fuel ih =>
      rw [search]
      cases hgrid : i.onGrid k with
      | some n => exact ⟨n, k, rfl, hgrid⟩
      | none =>
          obtain ⟨j, hj, hsome⟩ := h
          cases j with
          | zero =>
              rw [Nat.cast_zero, Int.sub_zero, hgrid] at hsome
              cases hsome
          | succ j =>
              refine ih ⟨j, by omega, ?_⟩
              rw [show k - 1 - (j : Int) = k - (j + 1 : Nat) by omega]
              exact hsome

/-- Zeros at the end do not count for the value. -/
theorem dropZeros_value (n : Nat) (k : Int) (fuel : Nat) :
    ((dropZeros n k fuel).1 : ℚ) * 10 ^ (dropZeros n k fuel).2 = n * 10 ^ k := by
  induction fuel generalizing n k with
  | zero => rfl
  | succ fuel ih =>
      rw [dropZeros]
      split
      · rename_i h
        rw [ih, zpow_add_one₀ (by norm_num)]
        have hten : n / 10 * 10 = n := Nat.div_mul_cancel (Nat.dvd_of_mod_eq_zero h.2)
        have hcast : ((n / 10 : Nat) : ℚ) * 10 = n := by exact_mod_cast hten
        rw [← hcast]
        ring
      · rfl

/-- Whether `10 ^ a` is at most `2 ^ b`. -/
def tenWithinTwo (a b : Int) : Bool :=
  10 ^ a.toNat * 2 ^ (-b).toNat ≤ 2 ^ b.toNat * 10 ^ (-a).toNat

theorem zpow_le_of_tenWithinTwo {a b : Int} (h : tenWithinTwo a b = true) :
    (10 : ℚ) ^ a ≤ 2 ^ b := by
  have hcast : (10 : ℚ) ^ a.toNat * 2 ^ (-b).toNat ≤ 2 ^ b.toNat * 10 ^ (-a).toNat := by
    exact_mod_cast of_decide_eq_true h
  have hten : (10 : ℚ) ^ a = 10 ^ a.toNat / 10 ^ (-a).toNat := by
    rw [← zpow_natCast, ← zpow_natCast, ← zpow_sub₀ (by norm_num)]
    congr 1
    omega
  have htwo : (2 : ℚ) ^ b = 2 ^ b.toNat / 2 ^ (-b).toNat := by
    rw [← zpow_natCast, ← zpow_natCast, ← zpow_sub₀ two_ne_zero]
    congr 1
    omega
  rw [hten, htwo, div_le_div_iff₀ (by positivity) (by positivity)]
  exact hcast

/-- Eighteen places behind the leading digit the grid is finer than a quarter of the last place. -/
theorem fine_enough : ∀ q : Fin 2098,
    tenWithinTwo (((q : Int) - 1074) * 1233 / 4096 - 18) ((q : Int) - 1074 - 54) = true := by
  decide +kernel

/-- The twentieth grid is fine enough. -/
theorem step_le {m : Magnitude} (hne : m.significand ≠ 0) (hbits : m.significand < 2 ^ 53)
    (hlow : -1074 ≤ m.exponent) (hhigh : m.exponent ≤ 971) :
    (10 : ℚ) ^ (leadingPower m + 1 - (19 : Nat)) ≤ 2 ^ (Interval.of m).exponent := by
  have hlog : m.significand.log2 ≤ 52 := Nat.le_of_lt_succ ((Nat.log2_lt hne).2 hbits)
  obtain ⟨q, hq⟩ : ∃ q : Nat, (q : Int) = m.significand.log2 + m.exponent + 1074 :=
    ⟨(m.significand.log2 + m.exponent + 1074).toNat, by omega⟩
  have hfine := fine_enough ⟨q, by omega⟩
  simp only [hq, Int.add_sub_cancel] at hfine
  have hpower : leadingPower m + 1 - (19 : Nat)
      = ((m.significand.log2 : Int) + m.exponent) * 1233 / 4096 - 18 := by
    unfold leadingPower
    omega
  rw [hpower]
  refine (zpow_le_of_tenWithinTwo hfine).trans (zpow_le_zpow_right₀ one_le_two ?_)
  show _ ≤ m.exponent - 2
  omega

/-- The digits of a positive double are not zero, and with their power of ten not above the upper
end of its interval. -/
theorem digits_bounds {m : Magnitude} (hne : m.significand ≠ 0) (hbits : m.significand < 2 ^ 53)
    (hlow : -1074 ≤ m.exponent) (hhigh : m.exponent ≤ 971) :
    (digits m).1 ≠ 0 ∧
      ((digits m).1 : ℚ) * 10 ^ (digits m).2
        ≤ (4 * m.significand + 2 : Nat) * 2 ^ (m.exponent - 2) := by
  have hbelow : 0 < (Interval.of m).low ∧ (Interval.of m).low < (Interval.of m).mid := by
    unfold Interval.of
    dsimp only
    split <;> omega
  have habove : (Interval.of m).mid < (Interval.of m).high := Nat.lt_add_of_pos_right (by decide)
  obtain ⟨n, k, hsearch, hgrid⟩ := search_eq 20
    ⟨19, by decide, onGrid_isSome hbelow.2 habove (step_le hne hbits hlow hhigh)⟩
  obtain ⟨hfrom, hto⟩ := between_of_contains (contains_of_onGrid hgrid)
  have hdigits : digits m = dropZeros n k 20 := by
    unfold digits
    rw [hsearch]
  have hvalue := dropZeros_value n k 20
  rw [← hdigits] at hvalue
  constructor
  · intro hzero
    rw [hzero, Nat.cast_zero, zero_mul] at hvalue
    rw [← hvalue] at hfrom
    have hpos : (0 : ℚ) < (Interval.of m).low * 2 ^ (Interval.of m).exponent :=
      mul_pos (by exact_mod_cast hbelow.1) (zpow_pos two_pos _)
    exact absurd hfrom (not_le.2 hpos)
  · rw [hvalue]
    exact hto

end HomeEnergy.Shortest
