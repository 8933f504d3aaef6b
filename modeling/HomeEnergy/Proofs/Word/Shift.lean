import Mathlib.Algebra.Group.Nat.Defs

/-!
# Words moved to the left

A word that is moved to the left is multiplied by a power of two, as long as no bit of it leaves the
word. Longer distances than the word has bits are taken modulo its width, so they are left out here.

## Main results

* `Words.toNat_shiftLeft16`, `Words.toNat_shiftLeft32`, `Words.toNat_shiftLeft64` — words of 16, 32
  and 64 bits, when nothing leaves them.
* `Words.toNat_bit16`, `Words.toNat_bit32` — a single bit, at any place.
-/

namespace HomeEnergy.Words

theorem toNat_shiftLeft16 {x k : UInt16} (hk : k.toNat < 16) (h : x.toNat * 2 ^ k.toNat < 2 ^ 16) :
    (x <<< k).toNat = x.toNat * 2 ^ k.toNat := by
  rw [UInt16.toNat_shiftLeft, Nat.mod_eq_of_lt hk, Nat.shiftLeft_eq, Nat.mod_eq_of_lt h]

theorem toNat_shiftLeft32 {x k : UInt32} (hk : k.toNat < 32) (h : x.toNat * 2 ^ k.toNat < 2 ^ 32) :
    (x <<< k).toNat = x.toNat * 2 ^ k.toNat := by
  rw [UInt32.toNat_shiftLeft, Nat.mod_eq_of_lt hk, Nat.shiftLeft_eq, Nat.mod_eq_of_lt h]

theorem toNat_shiftLeft64 {x k : UInt64} (hk : k.toNat < 64) (h : x.toNat * 2 ^ k.toNat < 2 ^ 64) :
    (x <<< k).toNat = x.toNat * 2 ^ k.toNat := by
  rw [UInt64.toNat_shiftLeft, Nat.mod_eq_of_lt hk, Nat.shiftLeft_eq, Nat.mod_eq_of_lt h]

theorem toNat_bit16 {k : UInt16} (hk : k.toNat < 16) : (1 <<< k : UInt16).toNat = 2 ^ k.toNat := by
  have hroom : (1 : UInt16).toNat * 2 ^ k.toNat < 2 ^ 16 := by
    rw [UInt16.toNat_one, Nat.one_mul]
    exact Nat.pow_lt_pow_right (by decide) hk
  rw [toNat_shiftLeft16 hk hroom, UInt16.toNat_one, Nat.one_mul]

theorem toNat_bit32 {k : UInt32} (hk : k.toNat < 32) : (1 <<< k : UInt32).toNat = 2 ^ k.toNat := by
  have hroom : (1 : UInt32).toNat * 2 ^ k.toNat < 2 ^ 32 := by
    rw [UInt32.toNat_one, Nat.one_mul]
    exact Nat.pow_lt_pow_right (by decide) hk
  rw [toNat_shiftLeft32 hk hroom, UInt32.toNat_one, Nat.one_mul]

end HomeEnergy.Words
