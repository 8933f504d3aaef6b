import HomeEnergy.Proofs.Word.Shift
import HomeEnergy.Register
import Mathlib.Data.Int.ModEq
import Mathlib.Data.List.Induction
import Mathlib.Data.Nat.Digits.Defs
import Mathlib.Data.Vector.Defs

/-!
# Words as digits

A block of words is a number in base 65536, with the highest digit first. Blocks of `k` words and
numbers below `65536 ^ k` are in one-to-one correspondence, for every number can be written and is
read back. A controller moves each word to its place and puts the words together bit by bit; that is
the same number, since no two words share a bit.

## Main results

* `Register.unsigned_written`, `Register.written_unsigned` — writing and reading undo each other.
* `Register.bijective_of_value` — a decoder that tells the number of a block loses nothing.
* `Register.toUInt32_eq_or`, `Register.toUInt64_eq_or` — words moved to their places.
* `Register.isSigned_iff` — a number in two's complement is settled by its range and its remainder.
-/

namespace HomeEnergy.Register

/-! ## The number of a block -/

theorem unsigned_concat (words : List UInt16) (w : UInt16) :
    unsigned (words ++ [w]) = unsigned words * base + w.toNat := by
  rw [unsigned, List.foldl_append]
  rfl

/-- The words are the digits of the number, in base 65536. -/
theorem unsigned_eq_ofDigits (words : List UInt16) :
    unsigned words = Nat.ofDigits base (words.map UInt16.toNat).reverse := by
  induction words using List.reverseRecOn with
  | nil => rfl
  | append_singleton words w ih =>
      rw [unsigned_concat, List.map_append, List.reverse_append, ih]
      change _ = Nat.ofDigits base (w.toNat :: _)
      rw [Nat.ofDigits_cons, Nat.mul_comm, Nat.add_comm]
      rfl

theorem unsigned_lt (words : List UInt16) : unsigned words < base ^ words.length := by
  induction words using List.reverseRecOn with
  | nil => exact Nat.one_pos
  | append_singleton words w ih =>
      have hw : w.toNat < base := w.toNat_lt
      have hmul : (unsigned words + 1) * base ≤ base ^ words.length * base :=
        Nat.mul_le_mul_right base ih
      rw [unsigned_concat, List.length_append, List.length_singleton, Nat.pow_succ]
      rw [Nat.add_mul, Nat.one_mul] at hmul
      omega

/-- A block of so many words that writes a number. -/
def written : Nat → Nat → List UInt16
  | 0, _ => []
  | k + 1, n => written k (n / base) ++ [UInt16.ofNat n]

theorem length_written (k n : Nat) : (written k n).length = k := by
  induction k generalizing n with
  | zero => rfl
  | succ k ih => rw [written, List.length_append, ih, List.length_singleton]

/-- A number is read back, if there are words enough for it. -/
theorem unsigned_written {k n : Nat} (h : n < base ^ k) : unsigned (written k n) = n := by
  induction k generalizing n with
  | zero =>
      rw [Nat.pow_zero, Nat.lt_one_iff] at h
      rw [h]
      rfl
  | succ k ih =>
      have hdiv : n / base < base ^ k := by
        rw [Nat.pow_succ] at h
        exact Nat.div_lt_of_lt_mul (Nat.mul_comm _ _ ▸ h)
      have hlow : (UInt16.ofNat n).toNat = n % base := UInt16.toNat_ofNat'
      rw [written, unsigned_concat, ih hdiv, hlow]
      exact Nat.div_add_mod' n base

/-- A block of words is written again. -/
theorem written_unsigned (words : List UInt16) : written words.length (unsigned words) = words := by
  induction words using List.reverseRecOn with
  | nil => rfl
  | append_singleton words w ih =>
      have hw : w.toNat < base := w.toNat_lt
      have hhigh : (unsigned words * base + w.toNat) / base = unsigned words := by
        rw [Nat.mul_comm, Nat.mul_add_div (by decide), Nat.div_eq_of_lt hw, Nat.add_zero]
      have hlow : UInt16.ofNat (unsigned words * base + w.toNat) = w := by
        apply UInt16.toNat_inj.1
        rw [UInt16.toNat_ofNat']
        change (unsigned words * base + w.toNat) % base = w.toNat
        rw [Nat.mul_comm, Nat.mul_add_mod, Nat.mod_eq_of_lt hw]
      rw [List.length_append, List.length_singleton, unsigned_concat, written, hhigh, hlow, ih]

/-- A decoder that tells the number of a block of so many words, and nothing larger, has one block
for each of its results. -/
theorem bijective_of_value {k : Nat} {β : Type} {decode : List UInt16 → β} {toNat : β → Nat}
    (hinj : ∀ {x y}, toNat x = toNat y → x = y) (hlt : ∀ x, toNat x < base ^ k)
    (hvalue : ∀ words : List.Vector UInt16 k, toNat (decode words.toList) = unsigned words.toList) :
    Function.Bijective fun words : List.Vector UInt16 k => decode words.toList := by
  constructor
  · intro words words' h
    have hnumber : unsigned words.toList = unsigned words'.toList := by
      rw [← hvalue, ← hvalue]
      exact congrArg toNat h
    apply List.Vector.eq
    rw [← written_unsigned words.toList, ← written_unsigned words'.toList, hnumber,
      words.toList_length, words'.toList_length]
  · intro x
    refine ⟨⟨written k (toNat x), length_written k _⟩, hinj ?_⟩
    exact (hvalue _).trans (unsigned_written (hlt x))

/-! ## Two words and four -/

theorem toNat_toUInt32 (words : List UInt16) :
    (toUInt32 words).toNat = unsigned [word words 0, word words 1] := by
  have hlt : unsigned [word words 0, word words 1] < base ^ 2 := unsigned_lt _
  have hroom : base ^ 2 = 2 ^ 32 := by decide
  rw [toUInt32, UInt32.toNat_ofNat', Nat.mod_eq_of_lt (hroom ▸ hlt)]

theorem toNat_toUInt64 (words : List UInt16) : (toUInt64 words).toNat
    = unsigned [word words 0, word words 1, word words 2, word words 3] := by
  have hlt : unsigned [word words 0, word words 1, word words 2, word words 3] < base ^ 4 :=
    unsigned_lt _
  have hroom : base ^ 4 = 2 ^ 64 := by decide
  rw [toUInt64, UInt64.toNat_ofNat', Nat.mod_eq_of_lt (hroom ▸ hlt)]

theorem value_two : ∀ words : List.Vector UInt16 2,
    (toUInt32 words.toList).toNat = unsigned words.toList
  | ⟨[a, b], _⟩ => toNat_toUInt32 [a, b]

theorem value_four : ∀ words : List.Vector UInt16 4,
    (toUInt64 words.toList).toNat = unsigned words.toList
  | ⟨[a, b, c, d], _⟩ => toNat_toUInt64 [a, b, c, d]

/-! ## Words moved to their places -/

/-- A further word comes in from the right, where nothing is. -/
theorem unsigned_concat_eq_or (words : List UInt16) (w : UInt16) :
    unsigned (words ++ [w]) = unsigned words <<< 16 ||| w.toNat := by
  rw [unsigned_concat, ← Nat.shiftLeft_add_eq_or_of_lt w.toNat_lt, Nat.shiftLeft_eq]
  rfl

theorem unsigned_single (w : UInt16) : unsigned [w] = w.toNat := Nat.zero_add _

theorem unsigned_two (a b : UInt16) : unsigned [a, b] = a.toNat <<< 16 ||| b.toNat := by
  rw [← unsigned_single a]
  exact unsigned_concat_eq_or [a] b

theorem unsigned_four (a b c d : UInt16) : unsigned [a, b, c, d]
    = a.toNat <<< 48 ||| b.toNat <<< 32 ||| c.toNat <<< 16 ||| d.toNat := by
  have hthree : unsigned [a, b, c] = unsigned [a, b] <<< 16 ||| c.toNat :=
    unsigned_concat_eq_or [a, b] c
  have hfour : unsigned [a, b, c, d] = unsigned [a, b, c] <<< 16 ||| d.toNat :=
    unsigned_concat_eq_or [a, b, c] d
  rw [hfour, hthree, unsigned_two]
  simp only [Nat.shiftLeft_or_distrib, ← Nat.shiftLeft_add]

/-- A word can be moved by 16 bits in a word of 32. -/
theorem toNat_moved32 (w : UInt16) : (w.toUInt32 <<< 16).toNat = w.toNat <<< 16 := by
  have hw : w.toNat < 2 ^ 16 := w.toNat_lt
  have hroom : w.toUInt32.toNat * 2 ^ 16 < 2 ^ 32 := by
    rw [UInt16.toNat_toUInt32]
    omega
  rw [Nat.shiftLeft_eq, ← UInt16.toNat_toUInt32]
  exact Words.toNat_shiftLeft32 (by decide) hroom

/-- A word can be moved by 16, 32 and 48 bits in a word of 64. -/
theorem toNat_moved64 (w : UInt16) {places : UInt64} (h : places.toNat ≤ 48) :
    (w.toUInt64 <<< places).toNat = w.toNat <<< places.toNat := by
  have hw : w.toNat < 2 ^ 16 := w.toNat_lt
  have hpow : 2 ^ places.toNat ≤ 2 ^ 48 := Nat.pow_le_pow_right (by decide) h
  have hroom : w.toUInt64.toNat * 2 ^ places.toNat < 2 ^ 64 := by
    have hlt := Nat.mul_lt_mul_of_lt_of_le hw hpow (Nat.two_pow_pos 48)
    rw [UInt16.toNat_toUInt64]
    omega
  rw [Nat.shiftLeft_eq, ← UInt16.toNat_toUInt64]
  exact Words.toNat_shiftLeft64 (by omega) hroom

theorem toUInt32_eq_or (a b : UInt16) : toUInt32 [a, b] = a.toUInt32 <<< 16 ||| b.toUInt32 := by
  apply UInt32.toNat_inj.1
  rw [toNat_toUInt32, UInt32.toNat_or, toNat_moved32, UInt16.toNat_toUInt32]
  exact unsigned_two a b

theorem toUInt64_eq_or (a b c d : UInt16) : toUInt64 [a, b, c, d]
    = a.toUInt64 <<< 48 ||| b.toUInt64 <<< 32 ||| c.toUInt64 <<< 16 ||| d.toUInt64 := by
  apply UInt64.toNat_inj.1
  rw [toNat_toUInt64, UInt64.toNat_or, UInt64.toNat_or, UInt64.toNat_or,
    toNat_moved64 a (by decide), toNat_moved64 b (by decide), toNat_moved64 c (by decide),
    UInt16.toNat_toUInt64]
  exact unsigned_four a b c d

/-! ## Two's complement -/

/-- `z` is the number that `n` is in two's complement of so many bits: it is in the signed range and
differs from `n` by a multiple of `2 ^ bits`. -/
def IsSigned (bits n : Nat) (z : Int) : Prop :=
  -2 ^ (bits - 1) ≤ z ∧ z < 2 ^ (bits - 1) ∧ z ≡ n [ZMOD 2 ^ bits]

theorem isSigned_iff {bits n : Nat} (hbits : 0 < bits) {z : Int} :
    IsSigned bits n z ↔ z = Int.bmod n (2 ^ bits) := by
  have hpos : 0 < 2 ^ bits := Nat.two_pow_pos bits
  have hcast : ((2 ^ bits : Nat) : Int) = 2 ^ bits := by push_cast; rfl
  have hhalves : (2 : Int) ^ bits = 2 * 2 ^ (bits - 1) := by
    rw [← Int.pow_succ', Nat.sub_add_cancel hbits]
  constructor
  · rintro ⟨hlow, hhigh, hmod⟩
    have hturns : z.bmod (2 ^ bits) = Int.bmod n (2 ^ bits) := by
      rw [← Int.emod_bmod z, ← Int.emod_bmod n, hcast, hmod]
    rw [← hturns, Int.bmod_eq_of_le_mul_two]
    · omega
    · omega
  · rintro rfl
    have hlow := Int.le_bmod (x := n) hpos
    have hhigh := Int.bmod_lt (x := n) hpos
    rw [hcast] at hlow hhigh
    refine ⟨by omega, by omega, ?_⟩
    have hturns := Int.bmod_emod (x := n) (m := 2 ^ bits)
    rwa [hcast] at hturns

end HomeEnergy.Register
