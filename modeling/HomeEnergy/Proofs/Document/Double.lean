import HomeEnergy.Proofs.Decimal.Scaled
import HomeEnergy.Proofs.Decimal.Shortest
import HomeEnergy.Proofs.Document.Numeral

/-!
# Doubles in documents

A finite double is written with the fewest digits that stand for it, and these digits are a numeral
wherever they are put. When the numeral is read again, nothing becomes too large on the way: for all
but sixteen doubles there is room between the upper end of the interval and the largest double, and
the sixteen have been tried.

## Main results

* `Shortest.unsigned_layout` — a layout is the text of a numeral.
* `Shortest.magnitude_written` — the value of that numeral.
* `Float.numeral_render`, `Float.scaled_numeral_isSome` — every finite double can be read again.
-/

namespace HomeEnergy

open Rounding (slack greatest)

namespace Shortest

open Json (Leads Stops unsigned)

variable {negative : Bool} {ds text : List Char} {k : Int}

/-- The numeral that a layout writes. -/
def written (negative : Bool) (ds : List Char) (k : Int) : Numeral :=
  let point := ds.length + k
  if 0 ≤ k ∧ point ≤ 16 then ⟨negative, ds ++ List.replicate k.toNat '0', ['0'], 0⟩
  else if 0 < point ∧ point ≤ 16 then ⟨negative, ds.take point.toNat, ds.drop point.toNat, 0⟩
  else if -5 < point ∧ point ≤ 0 then
    ⟨negative, ['0'], List.replicate (-point).toNat '0' ++ ds, 0⟩
  else ⟨negative, ds.take 1, ds.drop 1, point - 1⟩

/-- Digits as they are printed: at least one, and no zero in front. -/
structure Printed (ds : List Char) : Prop where
  run : IsRun ds
  ne_nil : ds ≠ []
  head : ds.head? ≠ some '0'

theorem printed_toDigits {n : Nat} (h : n ≠ 0) : Printed (Nat.toDigits 10 n) :=
  ⟨Decimal.isRun_toDigits n, Nat.toDigits_ne_nil, Decimal.head_toDigits h⟩

theorem isRun_zeros (n : Nat) : IsRun (List.replicate n '0') := by
  intro c hc
  rw [List.eq_of_mem_replicate hc]
  rfl

theorem isRun_append {es : List Char} (hd : IsRun ds) (he : IsRun es) : IsRun (ds ++ es) := by
  intro c hc
  rcases List.mem_append.1 hc with h | h
  · exact hd c h
  · exact he c h

theorem Printed.leads_append (h : Printed ds) {es : List Char} (he : IsRun es) :
    Leads (ds ++ es) := by
  obtain ⟨c, rest, rfl⟩ := List.exists_cons_of_ne_nil h.ne_nil
  exact ⟨isRun_append h.run he, List.cons_ne_nil _ _, fun hzero => absurd hzero h.head⟩

theorem Printed.leads_take (h : Printed ds) {n : Nat} (hn : n ≠ 0) : Leads (ds.take n) := by
  obtain ⟨c, rest, rfl⟩ := List.exists_cons_of_ne_nil h.ne_nil
  obtain ⟨m, rfl⟩ := Nat.exists_eq_succ_of_ne_zero hn
  exact ⟨fun d hd => h.run d (List.mem_of_mem_take hd), List.cons_ne_nil _ _,
    fun hzero => absurd hzero h.head⟩

/-- A layout is the text of its numeral. -/
theorem unsigned_layout (h : Printed ds) (ht : Stops text) :
    unsigned negative (layout ds k ++ text) = some (written negative ds k, false, text) := by
  have hzero : IsRun ['0'] := isRun_zeros 1
  unfold layout written
  dsimp only
  by_cases hwhole : 0 ≤ k ∧ ds.length + k ≤ 16
  · rw [if_pos hwhole, if_pos hwhole, List.append_assoc]
    show unsigned negative ((ds ++ List.replicate k.toNat '0') ++ '.' :: (['0'] ++ text)) = _
    rw [Json.unsigned_pointed (h.leads_append (isRun_zeros _)) hzero (by decide) ht.noDigit,
      Json.ending_stop ht]
    rfl
  rw [if_neg hwhole, if_neg hwhole]
  by_cases hinside : 0 < ds.length + k ∧ ds.length + k ≤ 16
  · rw [if_pos hinside, if_pos hinside, List.append_assoc, List.cons_append]
    rw [Json.unsigned_pointed (h.leads_take (by omega))
      (fun c hc => h.run c (List.mem_of_mem_drop hc)) ?_ ht.noDigit, Json.ending_stop ht]
    · rfl
    · rw [Ne, List.drop_eq_nil_iff]
      omega
  rw [if_neg hinside, if_neg hinside]
  by_cases hbelow : -5 < ds.length + k ∧ ds.length + k ≤ 0
  · rw [if_pos hbelow, if_pos hbelow]
    show unsigned negative
      (['0'] ++ '.' :: ((List.replicate (-(ds.length + k)).toNat '0' ++ ds) ++ text)) = _
    rw [Json.unsigned_pointed ⟨hzero, by decide, fun _ => rfl⟩ (isRun_append (isRun_zeros _) h.run)
      ?_ ht.noDigit, Json.ending_stop ht]
    · rfl
    · intro hnil
      exact h.ne_nil (List.append_eq_nil_iff.1 hnil).2
  rw [if_neg hbelow, if_neg hbelow]
  obtain ⟨c, rest, rfl⟩ := List.exists_cons_of_ne_nil h.ne_nil
  have hlead : Leads [c] := h.leads_take one_ne_zero
  obtain ⟨e, he⟩ : ∃ e, e = ((c :: rest).length : Int) + k - 1 := ⟨_, rfl⟩
  rw [← he]
  cases rest with
  | nil =>
      show unsigned negative ([c] ++ 'e' :: ((toString e).toList ++ text)) = _
      rw [Json.unsigned_whole hlead (by rintro d ⟨⟩; rfl) (by simp),
        Json.ending_exponent e ht.noDigit]
      rfl
  | cons d more =>
      show unsigned negative
        ([c] ++ '.' :: ((d :: more ++ 'e' :: (toString e).toList) ++ text)) = _
      rw [List.append_assoc, Json.unsigned_pointed hlead
        (fun b hb => h.run b (List.mem_cons_of_mem c hb)) (List.cons_ne_nil d more)
        (by rintro d ⟨⟩; rfl), List.cons_append, Json.ending_exponent e ht.noDigit]
      rfl

/-! ## What the numeral is worth -/

/-- Wherever the point is put, the numeral has the value of the digits. -/
theorem magnitude_written (h : ds ≠ []) :
    (written negative ds k).magnitude = Decimal.value ds * 10 ^ k := by
  have hlength : ds.length ≠ 0 := fun hzero => h (List.eq_nil_of_length_eq_zero hzero)
  unfold written Numeral.magnitude
  dsimp only
  split
  · rename_i hwhole
    obtain ⟨n, rfl⟩ := Int.eq_ofNat_of_zero_le hwhole.1
    have hzeros : List.replicate n '0' ++ ['0'] = List.replicate (n + 1) '0' :=
      List.replicate_succ'.symm
    rw [Int.toNat_natCast, List.append_assoc, hzeros, Decimal.value_append, Decimal.value_zeros,
      List.length_replicate, List.length_singleton]
    push_cast
    rw [add_zero, zpow_natCast, zpow_neg_one, pow_succ, mul_assoc, mul_assoc,
      mul_inv_cancel₀ (by norm_num), mul_one]
  · split
    · dsimp only
      rw [List.take_append_drop, List.length_drop]
      congr 2
      omega
    · split
      · dsimp only
        have hzeros : ['0'] ++ (List.replicate (-(ds.length + k)).toNat '0' ++ ds)
            = List.replicate ((-(ds.length + k)).toNat + 1) '0' ++ ds := by
          rw [← List.append_assoc, List.replicate_succ]
          rfl
        rw [hzeros, Decimal.value_append, Decimal.value_zeros, List.length_append,
          List.length_replicate, Nat.zero_mul, Nat.zero_add]
        congr 2
        omega
      · dsimp only
        rw [List.take_append_drop, List.length_drop]
        congr 2
        omega

/-- What stands before the point is not much. -/
theorem value_whole_lt (h : Printed ds) :
    Decimal.value (written negative ds k).whole < Numeral.wordLimit := by
  have hdigits : ∀ {es : List Char}, IsRun es → es.length ≤ 16 →
      Decimal.value es < Numeral.wordLimit := by
    intro es hrun hlength
    calc Decimal.value es < 10 ^ es.length := Decimal.value_lt hrun
      _ ≤ 10 ^ 16 := Nat.pow_le_pow_right (by decide) hlength
      _ < Numeral.wordLimit := by decide
  unfold written
  dsimp only
  split
  · refine hdigits (isRun_append h.run (isRun_zeros _)) ?_
    rw [List.length_append, List.length_replicate]
    omega
  · split
    · refine hdigits (fun c hc => h.run c (List.mem_of_mem_take hc)) ?_
      rw [List.length_take]
      omega
    · split
      · show Decimal.value ['0'] < _
        decide
      · refine hdigits (fun c hc => h.run c (List.mem_of_mem_take hc)) ?_
        rw [List.length_take]
        omega

/-- The exponent is that of the first digit, if one is written. -/
theorem exponent_le : (written negative ds k).exponent ≤ max 0 (ds.length + k - 1) := by
  unfold written
  dsimp only
  split
  · exact le_max_left _ _
  · split
    · exact le_max_left _ _
    · split
      · exact le_max_left _ _
      · exact le_max_right _ _

theorem pow_le_value (h : Printed ds) : 10 ^ (ds.length - 1) ≤ Decimal.value ds := by
  obtain ⟨c, rest, rfl⟩ := List.exists_cons_of_ne_nil h.ne_nil
  have hc := Char.isDigit_iff_toNat.1 (h.run c List.mem_cons_self)
  have hpos : 1 ≤ c.toNat - '0'.toNat := by
    have hne : c.toNat ≠ '0'.toNat := by
      intro heq
      exact h.head (congrArg some (Char.toNat_inj.1 heq))
    omega
  have hvalue := Decimal.value_cons c rest 0
  rw [Nat.zero_mul, Nat.zero_add, Nat.mul_zero, Nat.zero_add] at hvalue
  rw [hvalue, List.length_cons, Nat.add_sub_cancel]
  exact (Nat.le_mul_of_pos_left _ hpos).trans (Nat.le_add_right _ _)

/-- The numeral is read, if its value is not near the largest double. -/
theorem scaled_written_isSome (h : Printed ds)
    (hvalue : (Decimal.value ds : ℚ) * 10 ^ k * slack ^ 4 < greatest) :
    (written negative ds k).scaled.isSome = true := by
  refine Numeral.scaled_isSome (value_whole_lt h) ?_ ?_
  · refine exponent_le.trans (max_le (by decide) ?_)
    by_contra hlarge
    have hslack := Rounding.one_le_slack
    have hlength : 1 ≤ ds.length := List.length_pos_of_ne_nil h.ne_nil
    have hfirst : ((10 ^ (ds.length - 1) : Nat) : ℚ) ≤ Decimal.value ds := by
      exact_mod_cast pow_le_value h
    have hten : (10 : ℚ) ^ 309 ≤ Decimal.value ds * 10 ^ k * slack ^ 4 := by
      calc (10 : ℚ) ^ (309 : Int) ≤ 10 ^ (((ds.length - 1 : Nat) : Int) + k) := by
            refine zpow_le_zpow_right₀ (by norm_num) ?_
            rw [show Numeral.exponentLimit = 2147483647 by decide] at hlarge
            omega
        _ = (10 ^ (ds.length - 1) : Nat) * 10 ^ k * 1 ^ 4 := by
            rw [zpow_add₀ (by norm_num), zpow_natCast]
            push_cast
            ring
        _ ≤ Decimal.value ds * 10 ^ k * slack ^ 4 := by gcongr
    exact absurd (hvalue.trans Numeral.greatest_lt) (not_lt.2 hten)
  · rw [magnitude_written h.ne_nil]
    exact hvalue

/-- The largest doubles are too near to the limit for the general bound, but they are few. -/
theorem scaled_top : ∀ negative : Bool, ∀ j : Fin 16,
    (written negative (Nat.toDigits 10 (digits ⟨2 ^ 53 - 1 - j, 971⟩).1)
      (digits ⟨2 ^ 53 - 1 - j, 971⟩).2).scaled.isSome = true := by
  decide +kernel

/-- The upper end of the interval of any other double is far enough from the limit. -/
theorem upper_end_lt {m : Magnitude} (hbits : m.significand < 2 ^ 53) (hexponent : m.exponent ≤ 971)
    (htop : m.exponent ≤ 970 ∨ m.significand < 2 ^ 53 - 16) :
    ((4 * m.significand + 2 : Nat) : ℚ) * 2 ^ (m.exponent - 2) * slack ^ 4 < greatest := by
  have hslack : slack ^ 4 < 1 + 3 * 2 ^ (-51 : Int) := by
    norm_num [slack]
  have hpos : (0 : ℚ) < 1 + 3 * 2 ^ (-51 : Int) := by norm_num
  rcases htop with hsmall | hlow
  · calc ((4 * m.significand + 2 : Nat) : ℚ) * 2 ^ (m.exponent - 2) * slack ^ 4
        ≤ (4 * 2 ^ 53 : Nat) * 2 ^ (968 : Int) * (1 + 3 * 2 ^ (-51 : Int)) := by
          gcongr
          · omega
          · exact one_le_two
          · omega
      _ = (4 * 2 ^ 53 : Nat) * (1 + 3 * 2 ^ (-51 : Int)) * 2 ^ (968 : Int) := by ring
      _ < (2 ^ 53 - 1 : Nat) * 2 ^ 3 * 2 ^ (968 : Int) := by
          refine mul_lt_mul_of_pos_right ?_ (zpow_pos two_pos _)
          norm_num
      _ = greatest := by
          rw [mul_assoc, ← zpow_natCast, ← zpow_add₀ two_ne_zero]
          rfl
  · calc ((4 * m.significand + 2 : Nat) : ℚ) * 2 ^ (m.exponent - 2) * slack ^ 4
        ≤ (4 * (2 ^ 53 - 17) + 2 : Nat) * 2 ^ (969 : Int) * (1 + 3 * 2 ^ (-51 : Int)) := by
          gcongr
          · omega
          · exact one_le_two
          · omega
      _ = (4 * (2 ^ 53 - 17) + 2 : Nat) * (1 + 3 * 2 ^ (-51 : Int)) * 2 ^ (969 : Int) := by ring
      _ < (2 ^ 53 - 1 : Nat) * 2 ^ 2 * 2 ^ (969 : Int) := by
          refine mul_lt_mul_of_pos_right ?_ (zpow_pos two_pos _)
          norm_num
      _ = greatest := by
          rw [mul_assoc, ← zpow_natCast, ← zpow_add₀ two_ne_zero]
          rfl

/-- The digits of a positive double are read. -/
theorem scaled_digits_isSome {m : Magnitude} (hne : m.significand ≠ 0)
    (hbits : m.significand < 2 ^ 53) (hlow : -1074 ≤ m.exponent) (hhigh : m.exponent ≤ 971) :
    (written negative (Nat.toDigits 10 (digits m).1) (digits m).2).scaled.isSome = true := by
  by_cases htop : m.exponent ≤ 970 ∨ m.significand < 2 ^ 53 - 16
  · obtain ⟨hdigits, hvalue⟩ := digits_bounds hne hbits hlow hhigh
    have hslack := Rounding.one_le_slack
    refine scaled_written_isSome (printed_toDigits hdigits) (lt_of_le_of_lt ?_
      (upper_end_lt hbits hhigh htop))
    rw [Decimal.value_toDigits]
    gcongr
  · obtain ⟨n, e⟩ := m
    dsimp only at htop hbits hlow hhigh
    obtain rfl : e = 971 := by omega
    obtain ⟨j, hj, rfl⟩ : ∃ j, j < 16 ∧ n = 2 ^ 53 - 1 - j := ⟨2 ^ 53 - 1 - n, by omega, by omega⟩
    exact scaled_top negative ⟨j, hj⟩

end Shortest

namespace Magnitude

theorem leastExponent_le (bits : Nat) : -1074 ≤ (ofBits bits).exponent := by
  unfold ofBits
  dsimp only
  split
  · exact le_refl _
  · exact Int.le_add_of_nonneg_right (Int.natCast_nonneg _)

theorem exponent_le {bits : Nat} (h : bits / 2 ^ 52 % 2 ^ 11 ≠ 2047) :
    (ofBits bits).exponent ≤ 971 := by
  have hfield : bits / 2 ^ 52 % 2 ^ 11 < 2 ^ 11 := Nat.mod_lt _ (by decide)
  unfold ofBits
  dsimp only
  split
  · show (-1074 : Int) ≤ 971
    decide
  · show (-1074 : Int) + (bits / 2 ^ 52 % 2 ^ 11 - 1 : Nat) ≤ 971
    omega

end Magnitude

namespace Float

open Float.Model Float.Model.UnpackedFloat in
/-- A double is finite only if its exponent field is not full. -/
theorem field_of_isFinite {x : Float} (h : x.isFinite = true) :
    x.toBits.toNat / 2 ^ 52 % 2 ^ 11 ≠ 2047 := by
  intro hfield
  have hexponent : @unpackExponent Format.binary64 x.toModel.toBits.toBitVec = -1#11 := by
    refine BitVec.eq_of_toNat_eq ?_
    show (BitVec.extractLsb 62 52 x.toModel.toBits.toBitVec).toNat = 2047
    rw [BitVec.extractLsb_toNat, Nat.shiftRight_eq_div_pow]
    exact hfield
  have hunpack : x.toModel.unpack.isFinite = false := by
    show (UnpackedFloat.unpack Format.binary64 x.toModel.toBits.toBitVec).isFinite = false
    unfold UnpackedFloat.unpack
    dsimp only
    rw [if_pos hexponent]
    split <;> rfl
  cases hunpack.symm.trans h

/-- The numeral that a finite double is written as. -/
def numeral (x : Float) : Numeral :=
  let m := Magnitude.ofFloat x
  if m.significand = 0 then ⟨signBit x, ['0'], ['0'], 0⟩
  else Shortest.written (signBit x) (Nat.toDigits 10 (Shortest.digits m).1) (Shortest.digits m).2

/-- The text of a finite double is that of its numeral, wherever it stands. -/
theorem numeral_render {x : Float} {text : List Char} (hx : x.isFinite = true)
    (ht : Json.Stops text) :
    Json.numeral (Shortest.render x ++ text) = some (numeral x, false, text) := by
  have hsign : ∀ body : List Char, (if signBit x then '-' :: body else body) ++ text
      = Json.minus (signBit x) ++ (body ++ text) := by
    intro body
    cases signBit x <;> rfl
  unfold Shortest.render
  dsimp only
  rw [hsign]
  refine Json.numeral_of_unsigned ?_
  unfold numeral
  dsimp only
  split
  · show Json.unsigned (signBit x) (['0'] ++ '.' :: (['0'] ++ text)) = _
    have hzero : IsRun ['0'] := Shortest.isRun_zeros 1
    rw [Json.unsigned_pointed ⟨hzero, by decide, fun _ => rfl⟩ hzero (by decide) ht.noDigit,
      Json.ending_stop ht]
    rfl
  · rename_i hne
    have hdigits := (Shortest.digits_bounds hne (Magnitude.significand_lt _)
      (Magnitude.leastExponent_le _) (Magnitude.exponent_le (field_of_isFinite hx))).1
    rw [Decimal.toList_toString]
    exact Shortest.unsigned_layout (Shortest.printed_toDigits hdigits) ht

/-- Every finite double can be read again. -/
theorem scaled_numeral_isSome {x : Float} (h : x.isFinite = true) :
    (numeral x).scaled.isSome = true := by
  unfold numeral
  dsimp only
  split
  · cases signBit x <;> decide +kernel
  · rename_i hne
    exact Shortest.scaled_digits_isSome hne (Magnitude.significand_lt _)
      (Magnitude.leastExponent_le _) (Magnitude.exponent_le (field_of_isFinite h))

/-- What a double becomes when it is written and read again, if it is a number then. -/
def again (x : Float) : Option Float := if x.isFinite then (numeral x).scaled else none

theorem again_isSome_iff {x : Float} : (again x).isSome = true ↔ x.isFinite = true := by
  unfold again
  split
  · rename_i h
    exact ⟨fun _ => h, fun _ => scaled_numeral_isSome h⟩
  · rename_i h
    exact ⟨fun hnone => absurd hnone (by decide), fun hfinite => absurd hfinite h⟩

end Float

end HomeEnergy
