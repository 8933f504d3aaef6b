import HomeEnergy.Text.Blank

/-!
# Registers

A controller answers reads with words of 16 bits. Longer numbers stand in several words, the word
with the highest bits first.

## Main results

* `unsigned_append` — the words of two blocks side by side count in base 65536.
* `toText_append` — the characters of two blocks side by side stand side by side.
-/

namespace HomeEnergy.Register

/-- The number of values of a word. -/
def base : Nat := 65536

/-- The number that a block of words writes, the highest word first. -/
def unsigned (words : List UInt16) : Nat := words.foldl (fun n w => n * base + w.toNat) 0

theorem foldl_unsigned (words : List UInt16) (n : Nat) :
    words.foldl (fun n w => n * base + w.toNat) n
      = n * Nat.pow base words.length + unsigned words := by
  induction words generalizing n with
  | nil => simp [unsigned]
  | cons w rest ih =>
    have hPow : Nat.pow base (rest.length + 1) = Nat.pow base rest.length * base := rfl
    simp only [unsigned, List.foldl_cons, List.length_cons]
    rw [ih, ih (0 * base + w.toNat), hPow]
    generalize Nat.pow base rest.length = p
    have hMul : n * base * p = n * (p * base) := by rw [Nat.mul_assoc, Nat.mul_comm p]
    rw [Nat.add_mul, hMul, Nat.zero_mul, Nat.zero_add, Nat.add_assoc]

theorem unsigned_append (high low : List UInt16) :
    unsigned (high ++ low) = unsigned high * Nat.pow base low.length + unsigned low := by
  rw [unsigned, List.foldl_append, foldl_unsigned]
  rfl

/-- The word at an index; missing words count as zero. -/
def word (words : List UInt16) (i : Nat) : UInt16 := words[i]?.getD 0

/-- The unsigned number in the first two words. -/
def toUInt32 (words : List UInt16) : UInt32 :=
  UInt32.ofNat (unsigned [word words 0, word words 1])

/-- The unsigned number in the first four words. -/
def toUInt64 (words : List UInt16) : UInt64 :=
  UInt64.ofNat (unsigned [word words 0, word words 1, word words 2, word words 3])

/-- The first word in two's complement. -/
def toInt16 (words : List UInt16) : Int16 := (word words 0).toInt16

/-- The first two words in two's complement. -/
def toInt32 (words : List UInt16) : Int32 := (toUInt32 words).toInt32

/-- The first four words in two's complement. -/
def toInt64 (words : List UInt16) : Int64 := (toUInt64 words).toInt64

/-- The first two words as the bits of a single-precision number. -/
def toFloat32 (words : List UInt16) : Float32 := Float32.ofBits (toUInt32 words)

/-- One character for each word: the one whose code is the low byte of the word. -/
def toText (words : List UInt16) : List Char :=
  words.map fun w => Char.ofNat (w.toNat % 256)

theorem toText_append (first second : List UInt16) :
    toText (first ++ second) = toText first ++ toText second := by
  simp [toText]

/-- A set of bit positions below `width`, given by a number. -/
structure Bits where
  width : Nat
  value : Nat
  value_lt : value < Nat.pow 2 width

namespace Bits

/-- The bits of one word. -/
def ofWord (w : UInt16) : Bits := ⟨16, w.toNat, w.toNat_lt⟩

/-- The bits of the first two words. -/
def ofWords (words : List UInt16) : Bits := ⟨32, (toUInt32 words).toNat, (toUInt32 words).toNat_lt⟩

/-- Whether a bit is set; a position at or beyond the width never is. -/
def isSet (b : Bits) (position : Nat) : Bool := position < b.width && b.value.testBit position

/-- The number of set bits. -/
def ones (b : Bits) : Nat := ((List.range b.width).filter b.isSet).length

theorem isSet_of_width_le {b : Bits} {position : Nat} (h : b.width ≤ position) :
    b.isSet position = false := by
  simp [isSet, Nat.not_lt.mpr h]

end Bits

end HomeEnergy.Register
