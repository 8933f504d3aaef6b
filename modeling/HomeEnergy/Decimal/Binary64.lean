/-!
# Double-precision numbers as scaled integers

A finite double is an integer times a power of two. This module takes a double apart into that
pair, which is what exact decimal printing works on, and puts whole numbers and decimals together
into the nearest double.

## Main results

* `Magnitude.significand_lt` — the integer part of a double has at most 53 bits.
-/

namespace HomeEnergy

/-- The absolute value of a finite double: `significand * 2 ^ exponent`. -/
structure Magnitude where
  significand : Nat
  exponent : Int
deriving DecidableEq, Repr

namespace Magnitude

/-- The number of bits behind the leading bit of a normal double. -/
def fractionBits : Nat := 52

/-- The exponent of the smallest positive double. -/
def leastExponent : Int := -1074

/-- Read the bit pattern of a finite double. A pattern with an empty exponent field has no hidden
leading bit. -/
def ofBits (bits : Nat) : Magnitude :=
  let fraction := bits % Nat.pow 2 fractionBits
  let field : Nat := bits / Nat.pow 2 fractionBits % Nat.pow 2 11
  if field = 0 then ⟨fraction, leastExponent⟩
  else ⟨fraction + Nat.pow 2 fractionBits, leastExponent + (field - 1 : Nat)⟩

/-- The absolute value of a finite double. -/
def ofFloat (x : Float) : Magnitude := ofBits x.toBits.toNat

theorem significand_lt (bits : Nat) : (ofBits bits).significand < Nat.pow 2 (fractionBits + 1) := by
  have hFraction : bits % Nat.pow 2 fractionBits < Nat.pow 2 fractionBits :=
    Nat.mod_lt _ (by decide)
  have hPow : Nat.pow 2 (fractionBits + 1) = Nat.pow 2 fractionBits * 2 := rfl
  unfold ofBits
  dsimp only
  rw [hPow]
  split
  · show bits % Nat.pow 2 fractionBits < _
    omega
  · show bits % Nat.pow 2 fractionBits + Nat.pow 2 fractionBits < _
    omega

end Magnitude

/-- The sign bit of a double. -/
def Float.signBit (x : Float) : Bool := x.toBits.toNat / Nat.pow 2 63 = 1

/-- A decimal number `digits * 10 ^ exponent`, with a sign of its own so that a negative zero can be
told from a positive one. -/
structure Decimal where
  negative : Bool
  digits : Nat
  exponent : Int
deriving DecidableEq, Repr

namespace Decimal

/-- Above this power of ten every number other than zero is larger than any finite double. -/
def ceiling : Int := 400

/-- The double nearest to the absolute value, with ties to the even neighbour; infinite when it is
too large. Exponents far outside the range of doubles are settled without computing the power. -/
def absolute (d : Decimal) : Float :=
  if d.digits = 0 then 0.0
  else if ceiling < d.exponent then 1.0 / 0.0
  else if d.exponent + (d.digits.log2 + 1) < -ceiling then 0.0
  else Float.ofScientific d.digits (d.exponent < 0) d.exponent.natAbs

/-- The double nearest to a decimal number. -/
def toFloat (d : Decimal) : Float :=
  if d.negative then -d.absolute else d.absolute

/-- The value of a run of ASCII digits. -/
def value (digits : List Char) : Nat :=
  digits.foldl (fun n c => 10 * n + (c.toNat - '0'.toNat)) 0

@[simp] theorem value_nil : value [] = 0 := by simp [value]

end Decimal

end HomeEnergy
