/-!
# Single-precision numbers as doubles

Every single-precision number is a double. Its significand has 24 bits at most, which the 53 bits of
a double leave room for, and its exponent is far from the ends of the exponents of doubles, so that
no number is too small for a full significand.

## Main results

* `Single.toFloat` — the double that stands for the same number.
-/

namespace HomeEnergy.Single

open Float.Model

/-- The same number, with its significand filled up to 53 bits. -/
def filled : UnpackedFloat → UnpackedFloat
  | .finite sign m e pos =>
    .finite sign (m * Nat.pow 2 (52 - m.log2)) (e - (52 - m.log2 : Nat))
      (Nat.mul_pos pos (Nat.two_pow_pos _))
  | u => u

/-- A single-precision number as a double. -/
def toFloat (x : Float32) : Float := .ofModel (.pack (filled x.toModel.unpack))

end HomeEnergy.Single
