import HomeEnergy.Decimal.Numeral
import Mathlib

/-!
# How doubles are rounded

What has no place in the 53 bits of a double is cut off, and the bits that stay are rounded to the
nearest, to the even one of two that are equally near.

A sum of digits times a power of ten is read by two roundings to doubles and the rounding of their
product. Each of them goes up by one part in `2 ^ 52` at most, which is all that is needed to know
that nothing becomes infinite on the way. That bound is twice as wide as rounding to the nearest
double needs. It is shown for numbers from one on only, which are far from the subnormal ones.

## Main results

* `Rounding.roundedMantissa_shiftRight`, `Rounding.round_eq` — how a number is rounded.
* `Rounding.unpack_pack` — a double is made of what it falls apart into.
* `Rounding.round_le` — by how much rounding goes up.
* `Rounding.Within.mul`, `Rounding.within_ofScientific` — products, and whole numbers times powers
  of ten.
* `Rounding.not_inf_product` — the product that a numeral is read as.
-/

namespace HomeEnergy.Rounding

open Float.Model Float.Model.UnpackedFloat

/-- The value of a significand and an exponent. -/
def dyadic (m : Nat) (e : Int) : ℚ := m * 2 ^ e

/-- The largest double. What is less than that is not rounded to infinity. -/
def greatest : ℚ := dyadic (2 ^ 53 - 1) 971

/-- The most by which rounding makes a number larger that is no subnormal one. -/
def slack : ℚ := 1 + 2 ^ (-52 : Int)

/-! ## Shifting and rounding a significand -/

theorem mantissa_shiftRight (em : ExtendedMantissa) (n : Nat) :
    (em >>> n).mantissa = em.mantissa / 2 ^ n := by
  induction n with
  | zero => exact (Nat.div_one _).symm
  | succ n ih =>
      show (em >>> n).mantissa / 2 = em.mantissa / 2 ^ (n + 1)
      rw [ih, Nat.div_div_eq_div_mul, Nat.pow_succ]

/-- A significand without its last `s` bits, rounded to the nearest, and to the even one of two that
are equally near. -/
def halfEven (m s : Nat) : Nat :=
  if 2 * (m % 2 ^ s) < 2 ^ s ∨ 2 * (m % 2 ^ s) = 2 ^ s ∧ m / 2 ^ s % 2 = 0 then m / 2 ^ s
  else m / 2 ^ s + 1

theorem le_halfEven (m s : Nat) : m / 2 ^ s ≤ halfEven m s ∧ halfEven m s ≤ m / 2 ^ s + 1 := by
  unfold halfEven
  split <;> omega

/-- The two bits that are kept beside a significand tell where what has been cut off lies: the first
of the bits that were cut off, and whether there was another one. -/
theorem bits_shiftRight (m s : Nat) :
    (ExtendedMantissa.ofMantissaAndAccuracy m .exact >>> (s + 1)).roundBit
        = (m / 2 ^ s % 2 != 0) ∧
      (ExtendedMantissa.ofMantissaAndAccuracy m .exact >>> (s + 1)).stickyBit
        = (m % 2 ^ s != 0) := by
  obtain ⟨em, hem⟩ : ∃ em, em = ExtendedMantissa.ofMantissaAndAccuracy m .exact := ⟨_, rfl⟩
  have hmantissa (n : Nat) : (em >>> n).mantissa = m / 2 ^ n := by
    rw [mantissa_shiftRight, hem]
    rfl
  rw [← hem]
  have hround (n : Nat) : (em >>> (n + 1)).roundBit = (m / 2 ^ n % 2 != 0) := by
    show ((em >>> n).mantissa % 2 != 0) = _
    rw [hmantissa]
  refine ⟨hround s, ?_⟩
  induction s with
  | zero =>
      show (em.roundBit || em.stickyBit) = (m % 1 != 0)
      rw [hem, Nat.mod_one]
      rfl
  | succ s ih =>
      show ((em >>> (s + 1)).roundBit || (em >>> (s + 1)).stickyBit) = _
      have hpos : 0 < 2 ^ s := Nat.two_pow_pos s
      rw [hround, ih, Nat.mod_pow_succ, Bool.eq_iff_iff]
      simp only [Bool.or_eq_true, bne_iff_ne, ne_eq, Nat.add_eq_zero_iff, Nat.mul_eq_zero]
      omega

/-- Cutting off bits and rounding what is left. -/
theorem roundedMantissa_shiftRight (m s : Nat) :
    (ExtendedMantissa.ofMantissaAndAccuracy m .exact >>> s).roundedMantissa = halfEven m s := by
  have hmantissa := mantissa_shiftRight (ExtendedMantissa.ofMantissaAndAccuracy m .exact) s
  cases s with
  | zero =>
      show m = halfEven m 0
      simp [halfEven, Nat.mod_one]
  | succ s =>
      obtain ⟨hround, hsticky⟩ := bits_shiftRight m s
      have hpow : 2 ^ (s + 1) = 2 * 2 ^ s := Nat.pow_succ'
      have hlow : m % 2 ^ s < 2 ^ s := Nat.mod_lt m (Nat.two_pow_pos s)
      have hrest : m % 2 ^ (s + 1) = m % 2 ^ s + 2 ^ s * (m / 2 ^ s % 2) := Nat.mod_pow_succ
      obtain ⟨em, hem⟩ : ∃ em, em = ExtendedMantissa.ofMantissaAndAccuracy m .exact >>> (s + 1) :=
        ⟨_, rfl⟩
      rw [← hem] at hmantissa hround hsticky ⊢
      obtain ⟨q, round, sticky⟩ := em
      change q = m / 2 ^ (s + 1) at hmantissa
      subst hmantissa
      unfold halfEven
      generalize m / 2 ^ (s + 1) = q
      rcases Nat.mod_two_eq_zero_or_one (m / 2 ^ s) with hbit | hbit
      · have hround' : round = false := by simpa [hbit] using hround
        rw [hbit, Nat.mul_zero, Nat.add_zero] at hrest
        rw [if_pos (.inl (by omega)), hround']
        cases sticky <;> rfl
      · have hround' : round = true := by simpa [hbit] using hround
        rw [hbit, Nat.mul_one] at hrest
        cases sticky with
        | false =>
            have hzero : m % 2 ^ s = 0 := by simpa using hsticky.symm
            rw [hround', hrest, hzero]
            show q + q % 2 = _
            split <;> omega
        | true =>
            have hne : m % 2 ^ s ≠ 0 := by simpa using hsticky.symm
            rw [hround', if_neg (by omega)]
            rfl

theorem targetExponent_eq (m : Nat) (e : Int) :
    Format.binary64.targetExponent (totalExponent m e) = max (m.log2 + e - 52) (-1074) := by
  simp only [Format.targetExponent, totalExponent, Format.mantissaBits, Format.minExponent]
  norm_num
  omega

/-- A significand of 53 bits stays as it is. -/
theorem shift_of_fits {m : Nat} {e : Int} (hm : m.log2 = 52) (he : -1074 ≤ e) :
    shiftToTargetExponent Format.binary64 m e .exact = (⟨m, false, false⟩, e) := by
  have hamount : (Format.binary64.targetExponent (totalExponent m e) - e).toNat = 0 := by
    rw [targetExponent_eq, hm]
    omega
  simp only [shiftToTargetExponent, shiftToExponent, hamount]
  exact Prod.ext rfl (Int.add_zero e)

/-- A significand that has been rounded up to the next power of two loses a bit. -/
theorem shift_of_carry {e : Int} (he : -1074 ≤ e) :
    shiftToTargetExponent Format.binary64 (2 ^ 53) e .exact = (⟨2 ^ 52, false, false⟩, e + 1) := by
  have hlog : (2 ^ 53).log2 = 53 := Nat.log2_two_pow
  have hamount : (Format.binary64.targetExponent (totalExponent (2 ^ 53) e) - e).toNat = 1 := by
    rw [targetExponent_eq, hlog]
    omega
  simp only [shiftToTargetExponent, shiftToExponent, hamount]
  rfl

/-- Rounding a significand of at least 53 bits, with room below it. -/
theorem round_eq {sign : Sign} {m : Nat} {e : Int} (hm : 2 ^ 52 ≤ m)
    (he : -1074 ≤ m.log2 + e - 52) :
    2 ^ 52 ≤ m / 2 ^ (m.log2 - 52) ∧
      ((halfEven m (m.log2 - 52) < 2 ^ 53 ∧
          ∃ pos, roundWithAccuracy Format.binary64 sign m e .exact
            = .finite sign (halfEven m (m.log2 - 52)) (m.log2 + e - 52) pos) ∨
        (halfEven m (m.log2 - 52) = 2 ^ 53 ∧
          ∃ pos, roundWithAccuracy Format.binary64 sign m e .exact
            = .finite sign (2 ^ 52) (m.log2 + e - 52 + 1) pos)) := by
  have hne : m ≠ 0 := by omega
  have hlog : 52 ≤ m.log2 := (Nat.le_log2 hne).2 hm
  have hamount : (Format.binary64.targetExponent (totalExponent m e) - e).toNat = m.log2 - 52 := by
    rw [targetExponent_eq]
    omega
  have hexponent : e + ((m.log2 - 52 : Nat) : Int) = m.log2 + e - 52 := by omega
  have hfirst : shiftToTargetExponent Format.binary64 m e .exact =
      (ExtendedMantissa.ofMantissaAndAccuracy m .exact >>> (m.log2 - 52), m.log2 + e - 52) := by
    simp only [shiftToTargetExponent, shiftToExponent, hamount, hexponent]
  have hlow : 2 ^ 52 ≤ m / 2 ^ (m.log2 - 52) := by
    rw [Nat.le_div_iff_mul_le (Nat.two_pow_pos _), ← Nat.pow_add,
      show 52 + (m.log2 - 52) = m.log2 by omega]
    exact Nat.log2_self_le hne
  have hhigh : m / 2 ^ (m.log2 - 52) < 2 ^ 53 := by
    rw [Nat.div_lt_iff_lt_mul (Nat.two_pow_pos _), ← Nat.pow_add,
      show 53 + (m.log2 - 52) = m.log2 + 1 by omega]
    exact Nat.lt_log2_self
  obtain ⟨hle, hge⟩ := le_halfEven m (m.log2 - 52)
  refine ⟨hlow, ?_⟩
  unfold roundWithAccuracy
  rw [hfirst]
  dsimp only
  rw [roundedMantissa_shiftRight]
  generalize halfEven m (m.log2 - 52) = r at hle hge
  rcases Nat.lt_or_ge r (2 ^ 53) with hfits | hcarry
  · have hbits : r.log2 = 52 := (Nat.log2_eq_iff (by omega)).2 ⟨by omega, hfits⟩
    rw [shift_of_fits hbits he]
    exact .inl ⟨hfits, by omega, dif_neg (by show r ≠ 0; omega)⟩
  · have hmax : r = 2 ^ 53 := by omega
    rw [hmax, shift_of_carry he]
    exact .inr ⟨rfl, by omega, dif_neg (by show 2 ^ 52 ≠ 0; decide)⟩

/-- A significand of 53 bits needs no rounding. -/
theorem round_of_fits {sign : Sign} {m : Nat} {e : Int} (pos : 0 < m) (hm : 2 ^ 52 ≤ m)
    (hm' : m < 2 ^ 53) (he : -1074 ≤ e) :
    roundWithAccuracy Format.binary64 sign m e .exact = .finite sign m e pos := by
  have hbits : m.log2 = 52 := (Nat.log2_eq_iff (by omega)).2 ⟨hm, hm'⟩
  unfold roundWithAccuracy
  rw [shift_of_fits hbits he]
  dsimp only
  rw [show (ExtendedMantissa.mk m false false).roundedMantissa = m from rfl, shift_of_fits hbits he]
  exact dif_neg (by show m ≠ 0; omega)

/-! ## The value of what is rounded -/

theorem dyadic_nonneg (m : Nat) (e : Int) : 0 ≤ dyadic m e := by
  unfold dyadic
  positivity

theorem add_dyadic (m n : Nat) (e : Int) : dyadic (m + n) e = dyadic m e + dyadic n e := by
  unfold dyadic
  push_cast
  ring

theorem dyadic_le {m n : Nat} (h : m ≤ n) (e : Int) : dyadic m e ≤ dyadic n e := by
  unfold dyadic
  gcongr

theorem dyadic_lt {m n : Nat} (h : m < n) (e : Int) : dyadic m e < dyadic n e := by
  unfold dyadic
  gcongr

theorem dyadic_inj {m n : Nat} {e : Int} (h : dyadic m e = dyadic n e) : m = n := by
  unfold dyadic at h
  exact_mod_cast mul_right_cancel₀ (zpow_ne_zero e two_ne_zero) h

theorem dyadic_add (m : Nat) (e : Int) (s : Nat) : dyadic m (e + s) = dyadic (m * 2 ^ s) e := by
  rw [dyadic, dyadic, zpow_add₀ two_ne_zero, zpow_natCast]
  push_cast
  ring

theorem dyadic_two_pow (n : Nat) (e : Int) : dyadic (2 ^ n) e = 2 ^ (n + e) := by
  rw [dyadic, zpow_add₀ two_ne_zero, zpow_natCast]
  push_cast
  rfl

theorem two_zpow_le_dyadic {m : Nat} (hm : m ≠ 0) (e : Int) :
    (2 : ℚ) ^ (m.log2 + e) ≤ dyadic m e := by
  rw [← dyadic_two_pow]
  exact dyadic_le (Nat.log2_self_le hm) e

theorem dyadic_lt_two_zpow (m : Nat) (e : Int) : dyadic m e < 2 ^ (m.log2 + 1 + e) := by
  rw [← Nat.cast_add_one, ← dyadic_two_pow]
  exact dyadic_lt Nat.lt_log2_self e

/-- What is less than the largest double has its leading bit no higher. -/
theorem le_of_dyadic_lt_greatest {m : Nat} {e : Int} (hm : 2 ^ 52 ≤ m)
    (h : dyadic m e < greatest) : e ≤ 971 := by
  by_contra hgt
  have hlarge : greatest < dyadic m e := by
    calc greatest < dyadic (2 ^ 53) 971 := dyadic_lt (by decide) 971
      _ = 2 ^ (1024 : Int) := dyadic_two_pow 53 971
      _ ≤ 2 ^ ((52 : Nat) + e) := zpow_le_zpow_right₀ one_le_two (by omega)
      _ = dyadic (2 ^ 52) e := (dyadic_two_pow 52 e).symm
      _ ≤ dyadic m e := dyadic_le hm e
  exact absurd (h.trans hlarge) (lt_irrefl _)

/-- Rounding a number between one and the largest double gives a double, and makes the number larger
by no more than one part in `2 ^ 52`. -/
theorem round_le (sign : Sign) {m : Nat} {e : Int} (hm : 2 ^ 52 ≤ m) (hone : 1 ≤ dyadic m e)
    (hgreatest : dyadic m e < greatest) :
    ∃ n k pos, roundWithAccuracy Format.binary64 sign m e .exact = .finite sign n k pos ∧
      2 ^ 52 ≤ n ∧ n < 2 ^ 53 ∧ -52 ≤ k ∧ k ≤ 971 ∧ 1 ≤ dyadic n k ∧
      dyadic n k ≤ dyadic m e * slack := by
  have hne : m ≠ 0 := by omega
  have hlog : 52 ≤ m.log2 := (Nat.le_log2 hne).2 hm
  -- After rounding the last bit counts `2 ^ t`.
  obtain ⟨s, hs⟩ : ∃ s, s = m.log2 - 52 := ⟨_, rfl⟩
  obtain ⟨t, ht⟩ : ∃ t : Int, t = m.log2 + e - 52 := ⟨_, rfl⟩
  have hlead : -52 ≤ t := by
    by_contra hlt
    have hsmall : dyadic m e < 1 :=
      (dyadic_lt_two_zpow m e).trans_le (zpow_le_one_of_nonpos₀ one_le_two (by omega))
    exact absurd hone (not_le.2 hsmall)
  obtain ⟨hbase, hround⟩ := @round_eq sign m e hm (by omega)
  rw [← hs] at hbase hround
  rw [← ht] at hround
  obtain ⟨hlow, hhigh⟩ := le_halfEven m s
  generalize halfEven m s = r at hlow hhigh hround
  have hfloor : dyadic (m / 2 ^ s) t ≤ dyadic m e := by
    rw [show t = e + s by omega, dyadic_add]
    exact dyadic_le (Nat.div_mul_le_self m (2 ^ s)) e
  have hulp : (2 : ℚ) ^ t ≤ dyadic m e * 2 ^ (-52 : Int) := by
    calc (2 : ℚ) ^ t = 2 ^ (m.log2 + e) * 2 ^ (-52 : Int) := by
          rw [← zpow_add₀ two_ne_zero, ht, Int.sub_eq_add_neg]
      _ ≤ dyadic m e * 2 ^ (-52 : Int) := by
          gcongr
          exact two_zpow_le_dyadic hne e
  have hvalue : dyadic r t ≤ dyadic m e * slack := by
    calc dyadic r t ≤ dyadic (m / 2 ^ s + 1) t := dyadic_le hhigh t
      _ = dyadic (m / 2 ^ s) t + 2 ^ t := by
          unfold dyadic
          push_cast
          ring
      _ ≤ dyadic m e + dyadic m e * 2 ^ (-52 : Int) := add_le_add hfloor hulp
      _ = dyadic m e * slack := by
          unfold slack
          ring
  have hrone : 1 ≤ dyadic r t := by
    calc (1 : ℚ) ≤ 2 ^ ((52 : Nat) + t) := one_le_zpow₀ one_le_two (by omega)
      _ = dyadic (2 ^ 52) t := (dyadic_two_pow 52 t).symm
      _ ≤ dyadic r t := dyadic_le (hbase.trans hlow) t
  have hless : dyadic (m / 2 ^ s) t < greatest := hfloor.trans_lt hgreatest
  have htop : t ≤ 971 := le_of_dyadic_lt_greatest hbase hless
  rcases hround with ⟨hfits, pos, heq⟩ | ⟨rfl, pos, heq⟩
  · exact ⟨r, t, pos, heq, hbase.trans hlow, hfits, hlead, htop, hrone, hvalue⟩
  · have hcarry : dyadic (2 ^ 52) (t + 1) = dyadic (2 ^ 53) t := dyadic_add (2 ^ 52) t 1
    -- There is room for the carry, or else the number was the largest double at least.
    have hroom : t ≠ 971 := by
      rintro rfl
      exact absurd hless (not_lt.2 (dyadic_le (by omega) 971))
    rw [← hcarry] at hvalue hrone
    exact ⟨2 ^ 52, t + 1, pos, heq, le_refl _, by decide, by omega, by omega, hrone, hvalue⟩

/-! ## Doubles -/

/-- The three fields of a double with a significand of 53 bits. -/
theorem pack_eq (sign : Sign) {m : Nat} {e : Int} (pos : 0 < m) (hm : 2 ^ 52 ≤ m)
    (hm' : m < 2 ^ 53) (he : -1074 ≤ e) (he' : e ≤ 971) :
    UnpackedFloat.pack Format.binary64 (.finite sign m e pos) =
      packComponents Format.binary64 sign (BitVec.ofNat 11 (e + 1075).toNat)
        (BitVec.ofNat 52 m) := by
  have hlog : m.log2 + 1 = Format.binary64.mantissaBits := by
    rw [(Nat.log2_eq_iff (k := 52) (by omega)).2 ⟨hm, hm'⟩]
    rfl
  have hbias : (e + (Format.binary64.exponentBias : Int)
      + (Format.binary64.mantissaBitsWithoutImplicit : Int)).toNat = (e + 1075).toNat := by
    show (e + 1023 + 52).toNat = _
    congr 1
    omega
  simp only [UnpackedFloat.pack, hbias]
  rw [if_neg (by show ¬ 2 ^ 11 ≤ (e + 1075).toNat + 1; omega), if_pos hlog]

/-- Packing a significand of 53 bits loses nothing. -/
theorem unpack_pack (sign : Sign) {m : Nat} {e : Int} (pos : 0 < m) (hm : 2 ^ 52 ≤ m)
    (hm' : m < 2 ^ 53) (he : -1074 ≤ e) (he' : e ≤ 971) :
    (Float.Model.pack (.finite sign m e pos)).unpack = .finite sign m e pos := by
  obtain ⟨b, hb⟩ : ∃ b : Nat, b = (e + 1075).toNat := ⟨_, rfl⟩
  have hfield : (BitVec.ofNat 11 b).toNat = b := by
    rw [BitVec.toNat_ofNat, Nat.mod_eq_of_lt (by omega)]
  have hfraction : (1#1 ++ BitVec.ofNat 52 m).toNat = m := by
    rw [BitVec.toNat_append, BitVec.toNat_ofNat, BitVec.toNat_ofNat,
      ← Nat.shiftLeft_add_eq_or_of_lt (Nat.mod_lt m (Nat.two_pow_pos 52)), Nat.shiftLeft_eq]
    show 1 * 2 ^ 52 + m % 2 ^ 52 = m
    omega
  have hnotMax : BitVec.ofNat 11 b ≠ -1#11 := by
    intro h
    have hmax : b = 2047 := hfield.symm.trans (congrArg BitVec.toNat h)
    omega
  have hnotMin : BitVec.ofNat 11 b ≠ 0#11 := by
    intro h
    have hmin : b = 0 := hfield.symm.trans (congrArg BitVec.toNat h)
    omega
  have hexponent : (b : Int) - ((Format.binary64.exponentBias : Int)
      + (Format.binary64.mantissaBitsWithoutImplicit : Int)) = e := by
    rw [hb]
    show ((e + 1075).toNat : Int) - (1023 + 52) = e
    omega
  show UnpackedFloat.unpack Format.binary64
    (UnpackedFloat.pack Format.binary64 (.finite sign m e pos)) = _
  rw [pack_eq sign pos hm hm' he he', ← hb]
  simp only [UnpackedFloat.unpack, unpackExponent_packComponents, unpackMantissa_packComponents,
    unpackSign_packComponents, Sign.ofBitVec_toBitVec, hfield, hfraction, hexponent, hnotMax,
    hnotMin, if_false]

/-- The significand and the exponent of a double that is finite and not zero. -/
def parts? (x : Float) : Option (Nat × Int) :=
  match x.toModel.unpack with
  | .finite _ m e _ => some (m, e)
  | _ => none

/-- A double has a value from one up to a bound. -/
def Within (x : Float) (v : ℚ) : Prop :=
  ∃ m e, parts? x = some (m, e) ∧ 2 ^ 52 ≤ m ∧ 1 ≤ dyadic m e ∧ dyadic m e ≤ v

theorem Within.mono {x : Float} {v w : ℚ} (h : Within x v) (hvw : v ≤ w) : Within x w := by
  obtain ⟨m, e, hparts, hm, hone, hv⟩ := h
  exact ⟨m, e, hparts, hm, hone, hv.trans hvw⟩

theorem unpack_of_parts? {x : Float} {m : Nat} {e : Int} (h : parts? x = some (m, e)) :
    ∃ sign pos, x.toModel.unpack = .finite sign m e pos := by
  unfold parts? at h
  cases hx : x.toModel.unpack with
  | finite sign m' e' pos =>
      rw [hx] at h
      cases h
      exact ⟨sign, pos, rfl⟩
  | infinity sign =>
      rw [hx] at h
      cases h
  | notANumber =>
      rw [hx] at h
      cases h
  | zero sign =>
      rw [hx] at h
      cases h

theorem Within.not_inf {x : Float} {v : ℚ} (h : Within x v) : x.isInf = false := by
  obtain ⟨m, e, hparts, -⟩ := h
  obtain ⟨sign, pos, hx⟩ := unpack_of_parts? hparts
  show x.toModel.unpack.isInf = false
  rw [hx]
  rfl

/-- What is rounded from between one and the largest double. -/
theorem within_round (sign : Sign) {m : Nat} {e : Int} (hm : 2 ^ 52 ≤ m) (hone : 1 ≤ dyadic m e)
    (hgreatest : dyadic m e < greatest) :
    Within (.ofModel (.pack (roundWithAccuracy Format.binary64 sign m e .exact)))
      (dyadic m e * slack) := by
  obtain ⟨n, k, pos, heq, hn, hn', hk, hk', hnone, hvalue⟩ := round_le sign hm hone hgreatest
  refine ⟨n, k, ?_, hn, hnone, hvalue⟩
  unfold parts?
  rw [heq]
  dsimp only
  rw [unpack_pack sign pos hn hn' (by omega) hk']

theorem dyadic_mul (m n : Nat) (e k : Int) :
    dyadic m e * dyadic n k = dyadic (m * n) (e + k) := by
  unfold dyadic
  rw [zpow_add₀ two_ne_zero]
  push_cast
  ring

/-- A product is rounded once. -/
theorem mul_eq {x y : Float} {sign sign' : Sign} {m n : Nat} {e k : Int}
    {pos : 0 < m} {pos' : 0 < n} (hx : x.toModel.unpack = .finite sign m e pos)
    (hy : y.toModel.unpack = .finite sign' n k pos') :
    x * y = .ofModel
      (.pack (roundWithAccuracy Format.binary64 (sign * sign') (m * n) (e + k) .exact)) := by
  show Float.ofModel (.pack (UnpackedFloat.mul _ x.toModel.unpack y.toModel.unpack)) = _
  rw [hx, hy]
  rfl

/-- Products. -/
theorem Within.mul {x y : Float} {v w : ℚ} (hx : Within x v) (hy : Within y w)
    (hgreatest : v * w < greatest) : Within (x * y) (v * w * slack) := by
  obtain ⟨m, e, hm, hm', hmone, hv⟩ := hx
  obtain ⟨n, k, hn, hn', hnone, hw⟩ := hy
  obtain ⟨sign, pos, hxparts⟩ := unpack_of_parts? hm
  obtain ⟨sign', pos', hyparts⟩ := unpack_of_parts? hn
  have hone : 1 ≤ dyadic (m * n) (e + k) := by
    rw [← dyadic_mul]
    exact one_le_mul_of_one_le_of_one_le hmone hnone
  have hle : dyadic (m * n) (e + k) ≤ v * w := by
    rw [← dyadic_mul]
    exact mul_le_mul hv hw (zero_le_one.trans hnone) (zero_le_one.trans (hmone.trans hv))
  rw [mul_eq hxparts hyparts]
  refine (within_round _ ?_ hone (hle.trans_lt hgreatest)).mono ?_
  · exact hm'.trans (Nat.le_mul_of_pos_right m (by omega))
  · unfold slack
    gcongr

/-! ## Decimal numbers -/

theorem two_pow_le_greatest : dyadic (2 ^ 53) 0 ≤ greatest := by
  calc dyadic (2 ^ 53) 0 ≤ dyadic (2 ^ 53 - 1) 1 := by
        unfold dyadic
        norm_num
    _ ≤ greatest := by
        unfold greatest dyadic
        gcongr
        · exact one_le_two
        · decide

theorem one_le_slack : 1 ≤ slack := le_add_of_nonneg_right (by positivity)

/-- Shifting the leading bit to the place of the highest of 53 bits. -/
theorem lead_shifted {n : Nat} (hn : n ≠ 0) (hn' : n < 2 ^ 53) :
    n.log2 ≤ 52 ∧ 2 ^ 52 ≤ n * 2 ^ (52 - n.log2) ∧ n * 2 ^ (52 - n.log2) < 2 ^ 53 := by
  have hlog : n.log2 ≤ 52 := Nat.le_of_lt_succ ((Nat.log2_lt hn).2 hn')
  refine ⟨hlog, ?_, ?_⟩
  · calc 2 ^ 52 = 2 ^ n.log2 * 2 ^ (52 - n.log2) := by
          rw [← Nat.pow_add, show n.log2 + (52 - n.log2) = 52 by omega]
      _ ≤ n * 2 ^ (52 - n.log2) := Nat.mul_le_mul_right _ (Nat.log2_self_le hn)
  · calc n * 2 ^ (52 - n.log2) < 2 ^ (n.log2 + 1) * 2 ^ (52 - n.log2) :=
          Nat.mul_lt_mul_of_pos_right Nat.lt_log2_self (Nat.two_pow_pos _)
      _ = 2 ^ 53 := by rw [← Nat.pow_add, show n.log2 + 1 + (52 - n.log2) = 53 by omega]

/-- A whole number below `2 ^ 53` is rounded from a significand of 53 bits. -/
theorem toFloat_eq {n : Nat} (hn : n ≠ 0) (hn' : n < 2 ^ 53) :
    ∃ s : Nat, s ≤ 52 ∧ 2 ^ 52 ≤ n * 2 ^ s ∧ n * 2 ^ s < 2 ^ 53 ∧ n.toUInt64.toFloat =
      .ofModel (.pack (roundWithAccuracy Format.binary64 .positive (n * 2 ^ s) (-s) .exact)) := by
  obtain ⟨hlog, hlow, hhigh⟩ := lead_shifted hn hn'
  obtain ⟨s, hs⟩ : ∃ s, s = 52 - n.log2 := ⟨_, rfl⟩
  rw [← hs] at hlow hhigh
  refine ⟨s, by omega, hlow, hhigh, ?_⟩
  have hnat : n.toUInt64.toNat = n := Nat.mod_eq_of_lt (hn'.trans (by decide))
  have hamount : (-Format.binary64.targetExponent (totalExponent n 0)).toNat = s := by
    rw [targetExponent_eq]
    omega
  have hcompare : compare (n : Int) 0 = .gt := Int.compare_eq_gt.2 (by omega)
  show Float.ofModel
    (.pack (UnpackedFloat.normalize Format.binary64 (n.toUInt64.toNat : Int) 0 .positive)) = _
  rw [hnat, UnpackedFloat.normalize, hcompare]
  simp only [UnpackedFloat.round, Int.toNat_natCast, decreaseExponent, Int.zero_sub, hamount,
    Nat.shiftLeft_eq]

theorem dyadic_scaled (n s : Nat) : dyadic (n * 2 ^ s) (-s) = n := by
  rw [← dyadic_add, Int.add_left_neg, dyadic, zpow_zero, mul_one]

/-- A whole number below `2 ^ 53` as a double. -/
theorem within_toFloat {n : Nat} (hn : n ≠ 0) (hn' : n < 2 ^ 53) :
    Within n.toUInt64.toFloat (n * slack) := by
  obtain ⟨s, -, hbits, -, hround⟩ := toFloat_eq hn hn'
  have hvalue := dyadic_scaled n s
  rw [hround, ← hvalue]
  refine within_round _ hbits ?_ ?_
  · rw [hvalue]
    exact_mod_cast Nat.one_le_iff_ne_zero.2 hn
  · rw [hvalue]
    calc (n : ℚ) < ((2 ^ 53 : Nat) : ℚ) := by exact_mod_cast hn'
      _ = dyadic (2 ^ 53) 0 := by rw [dyadic, zpow_zero, mul_one]
      _ ≤ greatest := two_pow_le_greatest

/-- A power of ten that is a double. -/
theorem within_table {k : Nat} (hk : k < 23) :
    Within (getElem Float.exactlyRepresentablePowersOfTen k hk) (10 ^ k) := by
  have hparts : ∀ k : Fin 23, (Float.exactlyRepresentablePowersOfTen[k.1]?).bind parts? =
        some (10 ^ k.1 * 2 ^ 52 / 2 ^ (10 ^ k.1).log2, ((10 ^ k.1).log2 : Int) - 52) ∧
      10 ^ k.1 * 2 ^ 52 / 2 ^ (10 ^ k.1).log2 * 2 ^ (10 ^ k.1).log2 = 10 ^ k.1 * 2 ^ 52 ∧
      2 ^ 52 ≤ 10 ^ k.1 * 2 ^ 52 / 2 ^ (10 ^ k.1).log2 := by
    decide +kernel
  obtain ⟨hparts, hexact, hbits⟩ := hparts ⟨k, hk⟩
  rw [Array.getElem?_eq_getElem hk, Option.bind_some] at hparts
  obtain ⟨l, hl⟩ : ∃ l, l = (10 ^ k : Nat).log2 := ⟨_, rfl⟩
  dsimp only at hparts hexact hbits
  rw [← hl] at hparts hexact hbits
  have hvalue : dyadic (10 ^ k * 2 ^ 52 / 2 ^ l) (l - 52) = 10 ^ k := by
    rw [show (l : Int) - 52 = -52 + l by ring, dyadic_add, hexact, ← dyadic_add]
    unfold dyadic
    norm_num
  exact ⟨_, _, hparts, hbits, hvalue ▸ one_le_pow₀ (by norm_num), hvalue.le⟩

/-- The short way, where both factors are doubles. -/
theorem ofScientific_short {m k : Nat} (h : m < 2 ^ 53 ∧ k ≤ 22) :
    Float.ofScientific m false k = m.toUInt64.toFloat *
      getElem Float.exactlyRepresentablePowersOfTen k (Nat.lt_succ_of_le h.2) := by
  unfold Float.ofScientific
  rw [dif_pos h]
  rfl

/-- A product that is too long for the short way is rounded once. -/
theorem ofScientific_eq {m k : Nat} (hm : m ≠ 0) (hk : k ≤ 2048) (hlong : ¬ (m < 2 ^ 53 ∧ k ≤ 22)) :
    Float.ofScientific m false k = .ofModel (.pack
      (roundWithAccuracy Format.binary64 .positive (m * 2 ^ 53 * 10 ^ k) (-53) .exact)) := by
  unfold Float.ofScientific
  rw [dif_neg hlong]
  show Float.ofModel (.pack (UnpackedFloat.ofScientific Format.binary64 m (k : Int))) = _
  unfold UnpackedFloat.ofScientific
  rw [dif_neg hm, if_neg (by show ¬ (2 ^ 11 : Int) < k; omega),
    if_neg (by show ¬ (k : Int) < -(2 ^ 11 + m.log2); omega), if_pos (by omega)]
  simp only [UnpackedFloat.mul, Nat.shiftLeft_eq, Int.toNat_natCast]
  rfl

/-- A whole number times a power of ten as a double. -/
theorem within_ofScientific {m k : Nat} (hm : m ≠ 0) (hk : k ≤ 2048)
    (hgreatest : (m : ℚ) * slack * 10 ^ k < greatest) :
    Within (Float.ofScientific m false k) (m * slack * 10 ^ k * slack) := by
  have hmone : (1 : ℚ) ≤ m := by exact_mod_cast Nat.one_le_iff_ne_zero.2 hm
  by_cases hfast : m < 2 ^ 53 ∧ k ≤ 22
  · rw [ofScientific_short hfast]
    exact (within_toFloat hm hfast.1).mul (within_table (Nat.lt_succ_of_le hfast.2)) hgreatest
  · have heq := ofScientific_eq hm hk hfast
    have hvalue : dyadic (m * 2 ^ 53 * 10 ^ k) (-53) = m * 10 ^ k := by
      unfold dyadic
      push_cast
      norm_num
      ring
    have hle : (m : ℚ) * 10 ^ k ≤ m * slack * 10 ^ k := by
      gcongr
      exact le_mul_of_one_le_right (by positivity) one_le_slack
    have hround := within_round .positive (m := m * 2 ^ 53 * 10 ^ k) (e := -53) ?_ ?_ ?_
    · rw [heq]
      refine hround.mono ?_
      rw [hvalue]
      gcongr
      exact zero_le_one.trans one_le_slack
    · calc 2 ^ 52 ≤ 1 * 2 ^ 53 * 1 := by decide
        _ ≤ m * 2 ^ 53 * 10 ^ k := by
          gcongr
          · omega
          · exact Nat.one_le_pow _ _ (by decide)
    · rw [hvalue]
      exact one_le_mul_of_one_le_of_one_le hmone (one_le_pow₀ (by norm_num))
    · rw [hvalue]
      exact hle.trans_lt hgreatest

/-- A product that the scaled reading of a numeral is made of does not become infinite. -/
theorem not_inf_product {m k : Nat} (hm : m ≠ 0) (hk : k ≤ 308)
    (hgreatest : (m : ℚ) * 10 ^ k * slack ^ 4 < greatest) :
    (Float.ofScientific m false 0 * Numeral.powerOfTen k).isInf = false := by
  have hslack := one_le_slack
  have hpos : (0 : ℚ) ≤ slack := zero_le_one.trans hslack
  have hmone : (1 : ℚ) ≤ m := by exact_mod_cast Nat.one_le_iff_ne_zero.2 hm
  have hten : (1 : ℚ) ≤ 10 ^ k := one_le_pow₀ (by norm_num)
  have hdigits : (m : ℚ) * slack * 10 ^ 0 < greatest := by
    calc (m : ℚ) * slack * 10 ^ 0 = m * 1 * slack ^ 1 := by ring
      _ ≤ m * 10 ^ k * slack ^ 4 := by
          gcongr
          decide
      _ < greatest := hgreatest
  have hpower : ((1 : Nat) : ℚ) * slack * 10 ^ k < greatest := by
    calc ((1 : Nat) : ℚ) * slack * 10 ^ k = 1 * 10 ^ k * slack ^ 1 := by
          push_cast
          ring
      _ ≤ m * 10 ^ k * slack ^ 4 := by
          gcongr
          decide
      _ < greatest := hgreatest
  refine ((within_ofScientific hm (by decide) hdigits).mul
    (within_ofScientific one_ne_zero (hk.trans (by decide)) hpower) ?_).not_inf
  calc (m : ℚ) * slack * 10 ^ 0 * slack * (((1 : Nat) : ℚ) * slack * 10 ^ k * slack)
      = m * 10 ^ k * slack ^ 4 := by
        push_cast
        ring
    _ < greatest := hgreatest

end HomeEnergy.Rounding
