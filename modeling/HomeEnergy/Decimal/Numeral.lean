import HomeEnergy.Decimal.Binary64

/-!
# Numerals

A decimal numeral as it is written: a sign, digits before and after the point, and a power of ten.
Two readings turn it into a double. The exact reading takes the double nearest to the numeral's
value. The scaled reading, which documents use, collects as many leading digits as fit into 64 bits
and then scales once by a power of ten; it is exact for short numerals, may be off in the last bit
for long ones, and refuses numerals beyond the largest double.

## Main results

* `Numeral.exact`, `Numeral.scaled` — the two readings.
* `readFloat`, `readInteger` — texts that are a number and nothing else.
-/

namespace HomeEnergy

/-- A decimal numeral: `whole.fraction * 10 ^ exponent`. -/
structure Numeral where
  negative : Bool
  whole : List Char
  fraction : List Char
  exponent : Int
deriving DecidableEq, Repr

namespace Numeral

/-- The decimal number that a numeral denotes. -/
def decimal (n : Numeral) : Decimal :=
  ⟨n.negative, Decimal.value (n.whole ++ n.fraction), n.exponent - n.fraction.length⟩

/-- The double nearest to the numeral's value. -/
def exact (n : Numeral) : Float := n.decimal.toFloat

/-- The number of values of a 64-bit word. -/
def wordLimit : Nat := Nat.pow 2 64

/-- Collect digits while the number fits into 64 bits; the second part is the number of digits
left. -/
def collect : Nat → List Char → Nat × Nat
  | n, [] => (n, 0)
  | n, c :: rest =>
    let next := 10 * n + (c.toNat - '0'.toNat)
    if next < wordLimit then collect next rest else (n, rest.length + 1)

/-- The double `10 ^ k` for `k` up to 308. -/
def powerOfTen (k : Nat) : Float := Float.ofScientific 1 false k

/-- Divide by `10 ^ k`, at most `10 ^ 308` at a time. -/
def shrink (x : Float) (k : Nat) : Nat → Float
  | 0 => x
  | fuel + 1 =>
    if k ≤ 308 then x / powerOfTen k
    else if x == 0.0 then x
    else shrink (x / powerOfTen 308) (k - 308) fuel

/-- Scale a double by a power of ten. A power below `10 ^ -308` is taken off in portions. Nothing is
returned when the result is too large. -/
def scale (x : Float) (k : Int) : Option Float :=
  if k < 0 then some (shrink x k.natAbs (k.natAbs / 308 + 1))
  else if x == 0.0 then some x
  else if 308 < k then none
  else
    let y := x * powerOfTen k.toNat
    if y.isInf then none else some y

/-- The largest exponent that is still counted; a larger one decides the reading by itself. -/
def exponentLimit : Int := Nat.pow 2 31 - 1

/-- The scaled reading of a numeral. -/
def scaled (n : Numeral) : Option Float :=
  let (whole, dropped) := collect 0 n.whole
  let (digits, unread) := collect whole n.fraction
  let taken : Int := n.fraction.length - unread
  let value :=
    if exponentLimit < n.exponent then if digits = 0 then some 0.0 else none
    else if n.exponent < -exponentLimit then some 0.0
    else scale (Float.ofScientific digits false 0) (n.exponent + dropped - taken)
  if n.negative then value.map (-·) else value

end Numeral

/-- Why a text is no number. -/
inductive NumberFault where
  | emptyFloat
  | invalidFloat
  | emptyInteger
  | invalidDigit
  | tooLarge
  | tooSmall
deriving DecidableEq, Repr

/-- The wording of a number fault. -/
def NumberFault.message : NumberFault → String
  | .emptyFloat => "cannot parse float from empty string"
  | .invalidFloat => "invalid float literal"
  | .emptyInteger => "cannot parse integer from empty string"
  | .invalidDigit => "invalid digit found in string"
  | .tooLarge => "number too large to fit in target type"
  | .tooSmall => "number too small to fit in target type"

/-- Split an optional sign off a text; the first part tells whether it was a minus. -/
def takeSign : List Char → Bool × List Char
  | '-' :: rest => (true, rest)
  | '+' :: rest => (false, rest)
  | text => (false, text)

/-- Split the leading ASCII digits off a text. -/
def takeDigits (text : List Char) : List Char × List Char :=
  (text.takeWhile Char.isDigit, text.dropWhile Char.isDigit)

theorem takeDigits_append (text : List Char) : (takeDigits text).1 ++ (takeDigits text).2 = text :=
  List.takeWhile_append_dropWhile

/-- The exponent of a numeral, from the text behind its digits; the text must end with it. -/
def exponent? : List Char → Option Int
  | [] => some 0
  | c :: rest =>
    if c = 'e' ∨ c = 'E' then
      let (negative, digits) := takeSign rest
      if digits ≠ [] ∧ digits.all Char.isDigit then
        let n : Int := Decimal.value digits
        some (if negative then -n else n)
      else none
    else none

/-- The numeral that a text without a sign writes: digits with an optional point among or around
them, then an optional exponent. -/
def numeral? (negative : Bool) (text : List Char) : Option Numeral :=
  let (whole, rest) := takeDigits text
  let (fraction, rest) :=
    match rest with
    | '.' :: more => takeDigits more
    | _ => ([], rest)
  if whole = [] ∧ fraction = [] then none
  else (exponent? rest).map (⟨negative, whole, fraction, ·⟩)

/-- The double that a whole text writes: a numeral with an optional sign, or one of the words for
the infinities and for the undefined number in any letter case. -/
def readFloat (text : List Char) : Except NumberFault Float :=
  if text = [] then .error .emptyFloat
  else
    let (negative, body) := takeSign text
    let word := body.map Char.toLower
    if word = "inf".toList ∨ word = "infinity".toList then
      .ok (if negative then -(1.0 / 0.0) else 1.0 / 0.0)
    else if word = "nan".toList then .ok (0.0 / 0.0)
    else
      match numeral? negative body with
      | some n => .ok n.exact
      | none => .error .invalidFloat

/-- Read digits one after the other onto a number, as long as it stays at or below `most`; the first
character that is no digit, or makes the number too large, decides the fault. -/
def readDigits (most : Nat) (beyond : NumberFault) : Nat → List Char → Except NumberFault Nat
  | n, [] => .ok n
  | n, c :: rest =>
    if c.isDigit then
      let next := 10 * n + (c.toNat - '0'.toNat)
      if next ≤ most then readDigits most beyond next rest else .error beyond
    else .error .invalidDigit

/-- The integer of `bits` bits in two's complement that a whole text writes. -/
def readInteger (bits : Nat) (text : List Char) : Except NumberFault Int :=
  if text = [] then .error .emptyInteger
  else
    match takeSign text with
    | (_, []) => .error .invalidDigit
    | (true, digits) =>
      (readDigits (Nat.pow 2 (bits - 1)) .tooSmall 0 digits).map fun n => -(n : Int)
    | (false, digits) => (readDigits (Nat.pow 2 (bits - 1) - 1) .tooLarge 0 digits).map Int.ofNat

end HomeEnergy
