import HomeEnergy.Proofs.Register.Positional
import Mathlib.Data.Nat.Bitwise
import Mathlib.Data.Set.Card

/-!
# The decoders agree

Numbers of two words and four, signed and unsigned, sets of bits and texts are read from the same
words. `Register.decoders_agree` says what each of them tells of the words, and how one of them
follows from another.

## Main results

* `Register.Bits.shows_value` — a set of bits shows the bits of its number, and counts them.
* `Register.ofWord_isSet`, `Register.ofWords_isSet` — a bit is tested with a mask.
* `Register.codes_toText` — the codes of the characters of a text.
* `Register.decoders_agree` — what all decoders tell of words.
-/

namespace HomeEnergy.Register

/-! ## Sets of bits -/

namespace Bits

/-- A set shows the bits of an unsigned number below a width, and none beyond it. -/
structure Shows (b : Bits) (width n : Nat) : Prop where
  below : ∀ k < width, (b.isSet k = true ↔ n / 2 ^ k % 2 = 1)
  beyond : ∀ k ≥ width, b.isSet k = false
  /-- The count is the number of the positions that are set. -/
  ones : b.ones = Set.ncard {k | b.isSet k = true}
  /-- It is also the number of ones among the binary digits. -/
  digits : b.ones = (Nat.digits 2 n).count 1

theorem isSet_eq_testBit (b : Bits) (k : Nat) : b.isSet k = b.value.testBit k := by
  by_cases h : k < b.width
  · simp [isSet, h]
  · have hle : b.width ≤ k := Nat.le_of_not_lt h
    have hsmall : b.value < 2 ^ k :=
      Nat.lt_of_lt_of_le b.value_lt (Nat.pow_le_pow_right (by decide) hle)
    rw [isSet_of_width_le hle, Nat.testBit_lt_two_pow hsmall]

theorem ones_eq_ncard (b : Bits) : b.ones = Set.ncard {k | b.isSet k = true} := by
  have hset : {k | b.isSet k = true}
      = (((List.range b.width).filter b.isSet).toFinset : Set Nat) := by
    ext k
    have hbelow : b.isSet k = true → k < b.width := by
      intro hk
      refine Nat.lt_of_not_le fun hle => ?_
      rw [isSet_of_width_le hle] at hk
      cases hk
    simpa using hbelow
  rw [hset, Set.ncard_coe_finset, List.toFinset_card_of_nodup (List.nodup_range.filter _)]
  rfl

/-- Each binary digit of a number is one of its bits. -/
theorem countP_testBit {width n : Nat} (h : n < 2 ^ width) :
    (List.range width).countP n.testBit = (Nat.digits 2 n).count 1 := by
  induction width generalizing n with
  | zero =>
      have hzero : n = 0 := by simpa using h
      rw [hzero, Nat.digits_zero]
      rfl
  | succ width ih =>
      have hhalf : n / 2 < 2 ^ width := by
        rw [Nat.pow_succ] at h
        omega
      have hhigh : (List.range width).countP (n.testBit ∘ Nat.succ)
          = (Nat.digits 2 (n / 2)).count 1 := by
        rw [← ih hhalf]
        congr 1
        funext i
        exact Nat.testBit_succ n i
      rw [List.range_succ_eq_map, List.countP_cons, List.countP_map, hhigh, Nat.testBit_zero]
      rcases Nat.eq_zero_or_pos n with rfl | hpos
      · rfl
      · rw [Nat.digits_def' (by decide) hpos, List.count_cons]
        simp

theorem shows_value (b : Bits) : b.Shows b.width b.value where
  below k _ := by
    rw [isSet_eq_testBit, Nat.testBit_eq_decide_div_mod_eq, decide_eq_true_iff]
  beyond k hk := isSet_of_width_le hk
  ones := b.ones_eq_ncard
  digits := by
    rw [← countP_testBit b.value_lt, ones, ← List.countP_eq_length_filter]
    congr 1
    funext k
    exact b.isSet_eq_testBit k

end Bits

/-! ## Masks -/

/-- A mask of one bit meets a number if the number has that bit. -/
theorem and_two_pow_ne_zero_iff (n k : Nat) : n &&& 2 ^ k ≠ 0 ↔ n.testBit k = true := by
  have hpow := Nat.two_pow_pos k
  rw [Nat.and_two_pow]
  cases n.testBit k
  · simp
  · simp

/-- A bit is tested with a mask, behind a check of its position. -/
theorem Bits.isSet_of_mask {b : Bits} {k : Nat} {p q : Prop} [Decidable p] [Decidable q]
    (hp : p ↔ k < b.width) (hq : p → (q ↔ b.value &&& 2 ^ k ≠ 0)) :
    b.isSet k = (decide p && decide q) := by
  by_cases h : p
  · rw [decide_eq_true h, Bool.true_and, isSet_eq_testBit, Bool.eq_iff_iff, decide_eq_true_iff,
      hq h, and_two_pow_ne_zero_iff]
  · rw [decide_eq_false h, Bool.false_and]
    exact isSet_of_width_le (Nat.le_of_not_lt fun hlt => h (hp.2 hlt))

/-- In a word of 16 bits the mask has room for every position that passes the check. -/
theorem ofWord_isSet (w : UInt16) (k : UInt32) :
    (Bits.ofWord w).isSet k.toNat = (decide (k < 16) && decide (w &&& 1 <<< k.toUInt16 ≠ 0)) := by
  apply Bits.isSet_of_mask UInt32.lt_iff_toNat_lt
  intro h
  have hk : k.toNat < 16 := UInt32.lt_iff_toNat_lt.1 h
  have hplaces : k.toUInt16.toNat = k.toNat := by
    rw [UInt32.toNat_toUInt16]
    omega
  have hmask : (1 <<< k.toUInt16 : UInt16).toNat = 2 ^ k.toNat := by
    rw [Words.toNat_bit16 (hplaces ▸ hk), hplaces]
  rw [ne_eq, ← UInt16.toNat_inj, UInt16.toNat_and, hmask]
  rfl

theorem ofWords_isSet (words : List UInt16) (k : UInt32) : (Bits.ofWords words).isSet k.toNat
    = (decide (k < 32) && decide (toUInt32 words &&& 1 <<< k ≠ 0)) := by
  apply Bits.isSet_of_mask UInt32.lt_iff_toNat_lt
  intro h
  have hk : k.toNat < 32 := UInt32.lt_iff_toNat_lt.1 h
  rw [ne_eq, ← UInt32.toNat_inj, UInt32.toNat_and, Words.toNat_bit32 hk]
  rfl

/-! ## Texts -/

/-- The codes of the characters are the low bytes of the words. -/
theorem codes_toText (words : List UInt16) :
    (toText words).map Char.toNat = words.map fun w => w.toUInt8.toNat := by
  rw [toText, List.map_map]
  apply List.map_congr_left
  intro w _
  have hlt : w.toNat % 256 < 256 := Nat.mod_lt _ (by decide)
  have hvalid : (w.toNat % 256).isValidChar := Or.inl (by omega)
  rw [Function.comp_apply, Char.ofNat, dif_pos hvalid, UInt16.toNat_toUInt8]
  rfl

/-! ## All decoders -/

/-- What the decoders tell of words. -/
structure Agreement : Prop where
  /-- Two words and four are moved to their places and put together. -/
  moved32 : ∀ a b, toUInt32 [a, b] = a.toUInt32 <<< 16 ||| b.toUInt32
  moved64 : ∀ a b c d, toUInt64 [a, b, c, d]
    = a.toUInt64 <<< 48 ||| b.toUInt64 <<< 32 ||| c.toUInt64 <<< 16 ||| d.toUInt64
  /-- They are the digits of a number, the first of them the highest. -/
  digits32 : ∀ words : List.Vector UInt16 2, (toUInt32 words.toList).toNat
    = Nat.ofDigits 65536 (words.toList.map UInt16.toNat).reverse
  digits64 : ∀ words : List.Vector UInt16 4, (toUInt64 words.toList).toNat
    = Nat.ofDigits 65536 (words.toList.map UInt16.toNat).reverse
  /-- Each number is that of exactly one block. -/
  bijective32 : Function.Bijective fun words : List.Vector UInt16 2 => toUInt32 words.toList
  bijective64 : Function.Bijective fun words : List.Vector UInt16 4 => toUInt64 words.toList
  /-- The number of four words is made of those of its halves. -/
  halves : ∀ a b c d, (toUInt64 [a, b, c, d]).toNat
    = (toUInt32 [a, b]).toNat * 2 ^ 32 + (toUInt32 [c, d]).toNat
  /-- Signed numbers are the unsigned ones in two's complement. -/
  signed16 : ∀ words z, IsSigned 16 (word words 0).toNat z ↔ z = (toInt16 words).toInt
  signed32 : ∀ words z, IsSigned 32 (toUInt32 words).toNat z ↔ z = (toInt32 words).toInt
  signed64 : ∀ words z, IsSigned 64 (toUInt64 words).toNat z ↔ z = (toInt64 words).toInt
  /-- Sets of bits show the bits of the unsigned numbers. -/
  bits16 : ∀ w, (Bits.ofWord w).Shows 16 w.toNat
  bits32 : ∀ words, (Bits.ofWords words).Shows 32 (toUInt32 words).toNat
  /-- Each bit is found with a mask, and none is looked for that the mask has no room for. -/
  mask16 : ∀ (w : UInt16) (k : UInt32), (Bits.ofWord w).isSet k.toNat
    = (decide (k < 16) && decide (w &&& 1 <<< k.toUInt16 ≠ 0))
  mask32 : ∀ (words : List UInt16) (k : UInt32), (Bits.ofWords words).isSet k.toNat
    = (decide (k < 32) && decide (toUInt32 words &&& 1 <<< k ≠ 0))
  /-- A text has one character for each word, with the low byte of the word as its code. -/
  text : ∀ words, (toText words).map Char.toNat = words.map fun w => w.toUInt8.toNat
  text_append : ∀ words more, toText (words ++ more) = toText words ++ toText more

/-- Whatever the words are, the decoders agree with their place values and with each other. -/
theorem decoders_agree : Agreement where
  moved32 := toUInt32_eq_or
  moved64 := toUInt64_eq_or
  digits32 words := (value_two words).trans (unsigned_eq_ofDigits _)
  digits64 words := (value_four words).trans (unsigned_eq_ofDigits _)
  bijective32 := bijective_of_value UInt32.toNat_inj.1 UInt32.toNat_lt value_two
  bijective64 := bijective_of_value UInt64.toNat_inj.1 UInt64.toNat_lt value_four
  halves a b c d := by
    have happend : unsigned [a, b, c, d] = unsigned [a, b] * Nat.pow base 2 + unsigned [c, d] :=
      unsigned_append [a, b] [c, d]
    have hbase : Nat.pow base 2 = 2 ^ 32 := by decide
    rw [toNat_toUInt64, toNat_toUInt32, toNat_toUInt32, ← hbase]
    exact happend
  signed16 words z := by
    rw [isSigned_iff (by decide)]
    exact Eq.congr_right (BitVec.toInt_eq_toNat_bmod (word words 0).toBitVec).symm
  signed32 words z := by
    rw [isSigned_iff (by decide)]
    exact Eq.congr_right (BitVec.toInt_eq_toNat_bmod (toUInt32 words).toBitVec).symm
  signed64 words z := by
    rw [isSigned_iff (by decide)]
    exact Eq.congr_right (BitVec.toInt_eq_toNat_bmod (toUInt64 words).toBitVec).symm
  bits16 w := (Bits.ofWord w).shows_value
  bits32 words := (Bits.ofWords words).shows_value
  mask16 := ofWord_isSet
  mask32 := ofWords_isSet
  text := codes_toText
  text_append := toText_append

end HomeEnergy.Register
