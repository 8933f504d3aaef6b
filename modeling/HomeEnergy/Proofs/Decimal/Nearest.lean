import HomeEnergy.Proofs.Decimal.Rounding

/-!
# The double nearest to a number

A number that is no double is converted to the double nearest to it, and to the one with an even
significand if two are equally near. Between two neighbours on the grid of the last bit there is no
other double, however its exponent is chosen, so rounding a significand on that grid is enough.

## Main results

* `Float.value` — the number that a finite double stands for.
* `Float.nearest_round` — what rounding makes of a number is the double nearest to it.
* `Float.Nearest.neg` — numbers below zero.
* `Float.nearest_ofScientific` — whole numbers of up to 64 bits.
-/

namespace HomeEnergy

open Float.Model Float.Model.UnpackedFloat
open Rounding (dyadic halfEven)

namespace Float

/-- The number that a finite double stands for. -/
def value (x : Float) : ℚ :=
  (if signBit x then -1 else 1)
    * dyadic (Magnitude.ofFloat x).significand (Magnitude.ofFloat x).exponent

/-- A double is the conversion of a number: it is finite and as near as any finite double, it is the
even one if another is equally near, and it has the sign of the number. -/
structure Nearest (q : ℚ) (x : Float) : Prop where
  finite : x.isFinite = true
  closest : ∀ y : Float, y.isFinite = true → |value x - q| ≤ |value y - q|
  even : ∀ y : Float, y.isFinite = true → |value y - q| = |value x - q| → value y ≠ value x →
    Even (Magnitude.ofFloat x).significand
  sign : signBit x = decide (q < 0)

/-! ## The fields of a double -/

/-- A double is made of a sign, eleven bits for the exponent and 52 bits for the fraction. -/
structure Fields (x : Float) (s : Sign) (b : BitVec 11) (f : BitVec 52) : Prop where
  bits : x.toModel.toBits.toBitVec = packComponents Format.binary64 s b f

theorem fields_of_pack {u : UnpackedFloat} {s : Sign} {b : BitVec 11} {f : BitVec 52}
    (h : UnpackedFloat.pack Format.binary64 u = packComponents Format.binary64 s b f) :
    Fields (.ofModel (.pack u)) s b f :=
  ⟨h⟩

variable {x : Float} {s : Sign} {b : BitVec 11} {f : BitVec 52}

theorem Fields.toNat (h : Fields x s b f) :
    x.toBits.toNat = s.toBitVec.toNat * 2 ^ 63 + (b.toNat * 2 ^ 52 + f.toNat) := by
  have hb : b.toNat < 2 ^ 11 := b.isLt
  have hf : f.toNat < 2 ^ 52 := f.isLt
  have happend : (packComponents Format.binary64 s b f).toNat
      = (s.toBitVec.toNat * 2 ^ 11 + b.toNat) * 2 ^ 52 + f.toNat := by
    show ((s.toBitVec ++ b) ++ f).toNat = _
    rw [BitVec.toNat_append, ← Nat.shiftLeft_add_eq_or_of_lt hf, Nat.shiftLeft_eq,
      BitVec.toNat_append, ← Nat.shiftLeft_add_eq_or_of_lt hb, Nat.shiftLeft_eq]
  show x.toModel.toBits.toBitVec.toNat = _
  rw [h.bits, happend]
  omega

theorem Fields.signBit (h : Fields x s b f) : signBit x = (s == .negative) := by
  have hb : b.toNat < 2 ^ 11 := b.isLt
  have hf : f.toNat < 2 ^ 52 := f.isLt
  have hbits := h.toNat
  show decide (x.toBits.toNat / 2 ^ 63 = 1) = (s == .negative)
  cases s with
  | negative =>
      change x.toBits.toNat = 1 * 2 ^ 63 + (b.toNat * 2 ^ 52 + f.toNat) at hbits
      exact decide_eq_true (by omega)
  | positive =>
      change x.toBits.toNat = 0 * 2 ^ 63 + (b.toNat * 2 ^ 52 + f.toNat) at hbits
      exact decide_eq_false (by omega)

/-- The absolute value has nothing to do with the sign. -/
theorem Fields.magnitude (h : Fields x s b f) : Magnitude.ofFloat x =
    if b.toNat = 0 then ⟨f.toNat, -1074⟩ else ⟨f.toNat + 2 ^ 52, -1074 + (b.toNat - 1 : Nat)⟩ := by
  have hb : b.toNat < 2 ^ 11 := b.isLt
  have hf : f.toNat < 2 ^ 52 := f.isLt
  have hfraction : x.toBits.toNat % 2 ^ 52 = f.toNat := by
    rw [h.toNat]
    omega
  have hfield : x.toBits.toNat / 2 ^ 52 % 2 ^ 11 = b.toNat := by
    rw [h.toNat]
    omega
  show (if x.toBits.toNat / 2 ^ 52 % 2 ^ 11 = 0 then
    (⟨x.toBits.toNat % 2 ^ 52, -1074⟩ : Magnitude)
    else ⟨x.toBits.toNat % 2 ^ 52 + 2 ^ 52,
      -1074 + (x.toBits.toNat / 2 ^ 52 % 2 ^ 11 - 1 : Nat)⟩) = _
  rw [hfraction, hfield]

theorem Fields.isFinite_iff (h : Fields x s b f) : x.isFinite = true ↔ b ≠ -1#11 := by
  have hexponent : @unpackExponent Format.binary64 x.toModel.toBits.toBitVec = b := by
    rw [h.bits]
    exact unpackExponent_packComponents
  show (UnpackedFloat.unpack Format.binary64 x.toModel.toBits.toBitVec).isFinite = true ↔ _
  unfold UnpackedFloat.unpack
  dsimp only
  rw [hexponent]
  by_cases hb : b = -1#11
  · rw [if_pos hb]
    split <;> exact ⟨fun hfalse => Bool.noConfusion hfalse, fun hne => absurd hb hne⟩
  · rw [if_neg hb]
    split
    · split <;> exact ⟨fun _ => hb, fun _ => rfl⟩
    · exact ⟨fun _ => hb, fun _ => rfl⟩

/-- Every double has its fields. -/
theorem exists_fields (x : Float) : ∃ s b f, Fields x s b f :=
  ⟨_, _, _, ⟨(@packComponents_unpackSign_unpackExponent_unpackMantissa Format.binary64
    x.toModel.toBits.toBitVec).symm⟩⟩

/-! ## Numbers below zero -/

theorem packComponents_inj {s s' : Sign} {b b' : BitVec 11} {f f' : BitVec 52}
    (h : packComponents Format.binary64 s b f = packComponents Format.binary64 s' b' f') :
    s = s' ∧ b = b' ∧ f = f' := by
  have hsign := congrArg unpackSign h
  have hexponent := congrArg unpackExponent h
  have hmantissa := congrArg unpackMantissa h
  rw [unpackSign_packComponents, unpackSign_packComponents] at hsign
  rw [unpackExponent_packComponents, unpackExponent_packComponents] at hexponent
  rw [unpackMantissa_packComponents, unpackMantissa_packComponents] at hmantissa
  refine ⟨?_, hexponent, hmantissa⟩
  rw [← Sign.ofBitVec_toBitVec s, hsign, Sign.ofBitVec_toBitVec]

/-- Nothing but the sign changes when a number that is defined is packed with the other sign. -/
theorem pack_neg {u : UnpackedFloat} (hu : u ≠ .notANumber)
    (h : UnpackedFloat.pack Format.binary64 u = packComponents Format.binary64 s b f) :
    UnpackedFloat.pack Format.binary64 u.neg = packComponents Format.binary64 (-s) b f := by
  cases u with
  | notANumber => exact absurd rfl hu
  | infinity s' =>
      obtain ⟨rfl, rfl, rfl⟩ := packComponents_inj h
      rfl
  | zero s' =>
      obtain ⟨rfl, rfl, rfl⟩ := packComponents_inj h
      rfl
  | finite s' m e pos =>
      unfold UnpackedFloat.neg
      unfold UnpackedFloat.pack at h ⊢
      dsimp only at h ⊢
      split at h
      · rename_i hlarge
        obtain ⟨rfl, rfl, rfl⟩ := packComponents_inj h
        rw [if_pos hlarge]
        rfl
      · rename_i hlarge
        rw [if_neg hlarge]
        split at h
        · rename_i hbits
          obtain ⟨rfl, rfl, rfl⟩ := packComponents_inj h
          rw [if_pos hbits]
        · rename_i hbits
          obtain ⟨rfl, rfl, rfl⟩ := packComponents_inj h
          rw [if_neg hbits]

/-- The negative of a double differs from it in the sign only. -/
theorem Fields.neg (h : Fields x s b f) (hx : x.isFinite = true) : Fields (-x) (-s) b f := by
  have hdefined : x.toModel.unpack ≠ .notANumber := by
    intro hnan
    change x.toModel.unpack.isFinite = true at hx
    rw [hnan] at hx
    cases hx
  exact fields_of_pack (pack_neg hdefined ((pack_unpack_of_valid x.toModel.valid).trans h.bits))

theorem isFinite_neg (hx : x.isFinite = true) : (-x).isFinite = true := by
  obtain ⟨s, b, f, h⟩ := exists_fields x
  exact (h.neg hx).isFinite_iff.2 (h.isFinite_iff.1 hx)

theorem signBit_neg (hx : x.isFinite = true) : signBit (-x) = !signBit x := by
  obtain ⟨s, b, f, h⟩ := exists_fields x
  rw [(h.neg hx).signBit, h.signBit]
  cases s <;> rfl

theorem magnitude_neg (hx : x.isFinite = true) : Magnitude.ofFloat (-x) = Magnitude.ofFloat x := by
  obtain ⟨s, b, f, h⟩ := exists_fields x
  rw [(h.neg hx).magnitude, h.magnitude]

theorem value_neg (hx : x.isFinite = true) : value (-x) = -value x := by
  unfold value
  rw [signBit_neg hx, magnitude_neg hx]
  cases signBit x <;> simp

/-- Negative numbers are converted like positive ones. -/
theorem Nearest.neg {q : ℚ} (h : Nearest q x) (hq : q ≠ 0) : Nearest (-q) (-x) where
  finite := isFinite_neg h.finite
  closest y hy := by
    have hclosest := h.closest (-y) (isFinite_neg hy)
    rw [value_neg hy] at hclosest
    rw [value_neg h.finite, ← abs_neg, ← abs_neg (value y - -q)]
    convert hclosest using 2 <;> ring
  even y hy htie hne := by
    rw [magnitude_neg h.finite]
    refine h.even (-y) (isFinite_neg hy) ?_ ?_
    · rw [value_neg h.finite] at htie
      rw [value_neg hy, ← abs_neg, ← abs_neg (value x - q)]
      convert htie using 2 <;> ring
    · rw [value_neg hy]
      rw [value_neg h.finite] at hne
      exact fun heq => hne (by rw [← heq, neg_neg])
  sign := by
    rw [signBit_neg h.finite, h.sign, ← decide_not, decide_eq_decide, not_lt, neg_lt_zero]
    exact ⟨fun hle => lt_of_le_of_ne hle hq.symm, le_of_lt⟩

/-! ## Rounding on the grid of the last bit -/

/-- Between two neighbours on the grid of the last bit there is no double. -/
theorem value_le_or_ge (y : Float) {n : Nat} (hn : 2 ^ 52 ≤ n) (t : Int) :
    value y ≤ dyadic n t ∨ dyadic (n + 1) t ≤ value y := by
  have hm : (Magnitude.ofFloat y).significand < 2 ^ 53 := Magnitude.significand_lt _
  unfold value
  generalize (Magnitude.ofFloat y).significand = m at hm ⊢
  generalize (Magnitude.ofFloat y).exponent = e
  cases signBit y with
  | true =>
      refine .inl ?_
      calc (if true then -1 else 1) * dyadic m e = -dyadic m e := by simp
        _ ≤ 0 := neg_nonpos.2 (Rounding.dyadic_nonneg m e)
        _ ≤ dyadic n t := Rounding.dyadic_nonneg n t
  | false =>
      rw [if_neg Bool.false_ne_true, one_mul]
      rcases le_or_gt t e with hle | hlt
      · -- The number is a multiple of the grid.
        obtain ⟨k, hk⟩ := Int.eq_ofNat_of_zero_le (Int.sub_nonneg.2 hle)
        rw [show e = t + k by omega, Rounding.dyadic_add]
        rcases Nat.lt_or_ge n (m * 2 ^ k) with hgt | hge
        · exact .inr (Rounding.dyadic_le hgt t)
        · exact .inl (Rounding.dyadic_le hge t)
      · -- The number is below the least number of 53 bits on the grid.
        obtain ⟨k, hk⟩ := Int.eq_ofNat_of_zero_le (Int.sub_nonneg.2 (Int.add_one_le_of_lt hlt))
        refine .inl ?_
        rw [show t = e + (k + 1 : Nat) by omega, Rounding.dyadic_add]
        refine Rounding.dyadic_le ?_ e
        calc m ≤ 2 ^ 52 * 2 ^ 1 := by omega
          _ ≤ n * 2 ^ (k + 1) := by
            gcongr
            · decide
            · omega

/-- Rounding a significand takes the nearer neighbour, and of two the even one. -/
theorem halfEven_cases (m s : Nat) :
    (halfEven m s = m / 2 ^ s ∧ 2 * (m % 2 ^ s) ≤ 2 ^ s ∨
      halfEven m s = m / 2 ^ s + 1 ∧ 2 ^ s ≤ 2 * (m % 2 ^ s)) ∧
    (2 * (m % 2 ^ s) = 2 ^ s → Even (halfEven m s)) := by
  unfold halfEven
  split
  · rename_i h
    exact ⟨.inl ⟨rfl, by omega⟩, fun htie => Nat.even_iff.2 (by omega)⟩
  · rename_i h
    exact ⟨.inr ⟨rfl, by omega⟩, fun htie => Nat.even_iff.2 (by omega)⟩

/-- Of two neighbours the one that is not farther away is as near as anything that does not lie
between them, and if something else is equally near, so is the other neighbour. -/
theorem closest_of_gap {q low high v : ℚ} (hlow : low ≤ q) (hhigh : q ≤ high)
    (hgap : v ≤ low ∨ high ≤ v) :
    (q - low ≤ high - q → |low - q| ≤ |v - q| ∧
      (|v - q| = |low - q| → v ≠ low → q - low = high - q)) ∧
    (high - q ≤ q - low → |high - q| ≤ |v - q| ∧
      (|v - q| = |high - q| → v ≠ high → q - low = high - q)) := by
  rw [abs_of_nonpos (sub_nonpos.2 hlow), abs_of_nonneg (sub_nonneg.2 hhigh)]
  rcases hgap with hv | hv
  · rw [abs_of_nonpos (sub_nonpos.2 (hv.trans hlow))]
    refine ⟨fun h => ⟨by linarith, fun htie hne => absurd (by linarith) hne⟩,
      fun h => ⟨by linarith, fun htie _ => by linarith⟩⟩
  · rw [abs_of_nonneg (sub_nonneg.2 (hhigh.trans hv))]
    refine ⟨fun h => ⟨by linarith, fun htie _ => by linarith⟩,
      fun h => ⟨by linarith, fun htie hne => absurd (by linarith) hne⟩⟩

/-- No double is nearer to a number than its neighbour on the grid, and if another one is equally
near, the number lies in the middle. -/
theorem closest_halfEven (y : Float) {m s : Nat} (hm : 2 ^ 52 ≤ m / 2 ^ s) (e : Int) :
    |dyadic (halfEven m s) (e + s) - dyadic m e| ≤ |value y - dyadic m e| ∧
      (|value y - dyadic m e| = |dyadic (halfEven m s) (e + s) - dyadic m e| →
        value y ≠ dyadic (halfEven m s) (e + s) → Even (halfEven m s)) := by
  have hgrid := value_le_or_ge y hm (e + s)
  obtain ⟨hcases, heven⟩ := halfEven_cases m s
  -- The distances to the neighbours, counted on the grid of the number itself.
  have hrest : m % 2 ^ s < 2 ^ s := Nat.mod_lt m (Nat.two_pow_pos s)
  have hbelow : dyadic m e - dyadic (m / 2 ^ s) (e + s) = dyadic (m % 2 ^ s) e := by
    rw [Rounding.dyadic_add, sub_eq_iff_eq_add, ← Rounding.add_dyadic, Nat.mod_add_div']
  have habove : dyadic (m / 2 ^ s + 1) (e + s) - dyadic m e = dyadic (2 ^ s - m % 2 ^ s) e := by
    rw [Rounding.dyadic_add, sub_eq_iff_eq_add, ← Rounding.add_dyadic]
    congr 1
    have hm := Nat.div_add_mod' m (2 ^ s)
    rw [Nat.succ_mul]
    omega
  have hlow := sub_nonneg.1 (hbelow ▸ Rounding.dyadic_nonneg (m % 2 ^ s) e)
  have hhigh := sub_nonneg.1 (habove ▸ Rounding.dyadic_nonneg (2 ^ s - m % 2 ^ s) e)
  obtain ⟨hdown, hup⟩ := closest_of_gap hlow hhigh hgrid
  have hmiddle (h : dyadic m e - dyadic (m / 2 ^ s) (e + s)
      = dyadic (m / 2 ^ s + 1) (e + s) - dyadic m e) : Even (halfEven m s) := by
    rw [hbelow, habove] at h
    have hinj := Rounding.dyadic_inj h
    exact heven (by omega)
  rcases hcases with ⟨hr, hhalf⟩ | ⟨hr, hhalf⟩
  · obtain ⟨hclosest, htie⟩ := hdown (by
      rw [hbelow, habove]
      exact Rounding.dyadic_le (by omega) e)
    rw [hr] at hmiddle ⊢
    exact ⟨hclosest, fun heq hne => hmiddle (htie heq hne)⟩
  · obtain ⟨hclosest, htie⟩ := hup (by
      rw [hbelow, habove]
      exact Rounding.dyadic_le (by omega) e)
    rw [hr] at hmiddle ⊢
    exact ⟨hclosest, fun heq hne => hmiddle (htie heq hne)⟩

/-! ## What rounding makes of a number -/

section

variable {m : Nat} {e : Int} (pos : 0 < m) (hm : 2 ^ 52 ≤ m) (hm' : m < 2 ^ 53) (he : -1074 ≤ e)
  (he' : e ≤ 971)

include hm hm' he he'

theorem isFinite_finite : (Float.ofModel (.pack (.finite s m e pos))).isFinite = true := by
  show (Float.Model.pack (.finite s m e pos)).unpack.isFinite = true
  rw [Rounding.unpack_pack s pos hm hm' he he']
  rfl

theorem signBit_finite : signBit (.ofModel (.pack (.finite s m e pos))) = (s == .negative) :=
  (fields_of_pack (Rounding.pack_eq s pos hm hm' he he')).signBit

theorem magnitude_finite : Magnitude.ofFloat (.ofModel (.pack (.finite s m e pos))) = ⟨m, e⟩ := by
  have hfraction : (BitVec.ofNat 52 m).toNat + 2 ^ 52 = m := by
    rw [BitVec.toNat_ofNat]
    omega
  have hfield : (BitVec.ofNat 11 (e + 1075).toNat).toNat = (e + 1075).toNat := by
    rw [BitVec.toNat_ofNat]
    omega
  rw [(fields_of_pack (Rounding.pack_eq s pos hm hm' he he')).magnitude, hfield, hfraction,
    if_neg (by omega)]
  congr 1
  omega

end

/-- What rounding makes of a number is the double nearest to it. -/
theorem nearest_round {m : Nat} {e : Int} (hm : 2 ^ 52 ≤ m) (hlow : -1074 ≤ m.log2 + e - 52)
    (hhigh : m.log2 + e - 52 ≤ 970) :
    Nearest (dyadic m e)
      (.ofModel (.pack (roundWithAccuracy Format.binary64 .positive m e .exact))) := by
  have hlog : 52 ≤ m.log2 := (Nat.le_log2 (by omega)).2 hm
  have hsign : (Sign.positive == Sign.negative) = decide (dyadic m e < 0) :=
    (decide_eq_false (not_lt.2 (Rounding.dyadic_nonneg m e))).symm
  obtain ⟨hbase, hround⟩ := @Rounding.round_eq .positive m e hm hlow
  have hclosest := fun y => closest_halfEven y hbase e
  have hbits := (Rounding.le_halfEven m (m.log2 - 52)).1
  rw [show e + ((m.log2 - 52 : Nat) : Int) = m.log2 + e - 52 by omega] at hclosest
  generalize halfEven m (m.log2 - 52) = r at hround hclosest hbits
  -- A carry makes the significand a power of two and the exponent larger, and so keeps the value.
  obtain ⟨n, k, pos, hn, hn', hk, hk', heq, hvalue, heven⟩ : ∃ n k pos, 2 ^ 52 ≤ n ∧ n < 2 ^ 53 ∧
      -1074 ≤ k ∧ k ≤ 971 ∧ roundWithAccuracy Format.binary64 .positive m e .exact
        = .finite .positive n k pos ∧ dyadic n k = dyadic r (m.log2 + e - 52) ∧
      (Even r → Even n) := by
    rcases hround with ⟨hfits, pos, heq⟩ | ⟨rfl, pos, heq⟩
    · exact ⟨r, _, pos, hbase.trans hbits, hfits, hlow, by omega, heq, rfl, id⟩
    · exact ⟨2 ^ 52, _, pos, le_refl _, by decide, by omega, by omega, heq,
        Rounding.dyadic_add (2 ^ 52) (m.log2 + e - 52) 1, fun _ => by decide⟩
  rw [heq]
  have hfinite := isFinite_finite (s := .positive) pos hn hn' hk hk'
  have hbit := signBit_finite (s := .positive) pos hn hn' hk hk'
  have hmagnitude := magnitude_finite (s := .positive) pos hn hn' hk hk'
  have hx : value (.ofModel (.pack (.finite .positive n k pos))) = dyadic r (m.log2 + e - 52) := by
    unfold value
    rw [hbit, hmagnitude, ← hvalue]
    exact one_mul _
  refine ⟨hfinite, fun y _ => ?_, fun y _ => ?_, hbit.trans hsign⟩
  · rw [hx]
    exact (hclosest y).1
  · rw [hx, hmagnitude]
    exact fun htie hne => heven ((hclosest y).2 htie hne)

/-! ## Whole numbers -/

theorem nearest_zero : Nearest 0 (Float.ofScientific 0 false 0) := by
  have hvalue : value (Float.ofScientific 0 false 0) = 0 := by
    have hmagnitude : (Magnitude.ofFloat (Float.ofScientific 0 false 0)).significand = 0 := by
      decide +kernel
    unfold value dyadic
    rw [hmagnitude, Nat.cast_zero, zero_mul, mul_zero]
  refine ⟨by decide +kernel, fun y _ => ?_, fun y _ _ _ => by decide +kernel, by decide +kernel⟩
  rw [hvalue, sub_zero, abs_zero]
  exact abs_nonneg _

/-- A whole number is rounded from a significand of at least 53 bits. -/
theorem ofScientific_eq_round {n : Nat} (hn : n ≠ 0) :
    ∃ m e, 2 ^ 52 ≤ m ∧ dyadic m e = n ∧ Float.ofScientific n false 0 =
      .ofModel (.pack (roundWithAccuracy Format.binary64 .positive m e .exact)) := by
  by_cases hshort : n < 2 ^ 53
  · -- The short way multiplies by one, which is a double with a significand of 53 bits as well.
    obtain ⟨s, hs, hbits, hbits', hround⟩ := Rounding.toFloat_eq hn hshort
    have pos : 0 < n * 2 ^ s := by omega
    have hunpack : n.toUInt64.toFloat.toModel.unpack = .finite .positive (n * 2 ^ s) (-s) pos := by
      rw [hround, Rounding.round_of_fits pos hbits hbits' (by omega)]
      exact Rounding.unpack_pack .positive pos hbits hbits' (by omega) (by omega)
    have hone : (getElem Float.exactlyRepresentablePowersOfTen 0 (by decide)).toModel.unpack
        = .finite .positive (2 ^ 52) (-52) (by decide) := rfl
    refine ⟨n * 2 ^ s * 2 ^ 52, -s + -52, ?_, ?_, ?_⟩
    · exact hbits.trans (Nat.le_mul_of_pos_right _ (by decide))
    · rw [← Rounding.dyadic_mul, Rounding.dyadic_scaled]
      unfold dyadic
      norm_num
    · rw [Rounding.ofScientific_short ⟨hshort, by decide⟩]
      exact Rounding.mul_eq hunpack hone
  · refine ⟨n * 2 ^ 53 * 10 ^ 0, -53, by omega, ?_,
      Rounding.ofScientific_eq hn (by decide) fun h => hshort h.1⟩
    rw [pow_zero, mul_one]
    exact Rounding.dyadic_scaled n 53

/-- Whole numbers of up to 64 bits. -/
theorem nearest_ofScientific {n : Nat} (hn : n ≤ 2 ^ 64) :
    Nearest n (Float.ofScientific n false 0) := by
  by_cases hzero : n = 0
  · rw [hzero]
    exact_mod_cast nearest_zero
  · obtain ⟨m, e, hm, hvalue, heq⟩ := ofScientific_eq_round hzero
    rw [heq, ← hvalue]
    -- The value gives the place of the leading bit.
    have hm0 : m ≠ 0 := by omega
    have hlow : (1 : ℚ) < 2 ^ (m.log2 + 1 + e) := by
      calc (1 : ℚ) ≤ n := by exact_mod_cast Nat.one_le_iff_ne_zero.2 hzero
        _ = dyadic m e := hvalue.symm
        _ < 2 ^ (m.log2 + 1 + e) := Rounding.dyadic_lt_two_zpow m e
    have hhigh : (2 : ℚ) ^ (m.log2 + e) ≤ 2 ^ (64 : Int) := by
      calc (2 : ℚ) ^ (m.log2 + e) ≤ dyadic m e := Rounding.two_zpow_le_dyadic hm0 e
        _ = n := hvalue
        _ ≤ 2 ^ (64 : Int) := by exact_mod_cast hn
    have hlow' := (one_lt_zpow_iff_right₀ one_lt_two).1 hlow
    have hhigh' := (zpow_le_zpow_iff_right₀ one_lt_two).1 hhigh
    exact nearest_round hm (by omega) (by omega)

end Float

end HomeEnergy
