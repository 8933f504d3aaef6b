import HomeEnergy.Decimal.Binary64

/-!
# The shortest decimal that reads back

Every double stands for an interval of real numbers: those that round to it. The text of a double
is taken from the coarsest decimal grid that has a point in that interval, and on that grid the
point nearest to the double. All arithmetic is exact, on natural numbers.

## Main results

* `Shortest.digits` — the digits and the power of ten of a positive double.
* `Shortest.render` — how those digits are laid out in a document: positional up to sixteen places
  before the point and five after it, scientific beyond.
-/

namespace HomeEnergy.Shortest

/-- A positive rational number. -/
structure Ratio where
  num : Nat
  den : Nat

/-- The number `n * 2 ^ e`. -/
def Ratio.scaled (n : Nat) (e : Int) : Ratio :=
  if 0 ≤ e then ⟨n * Nat.pow 2 e.natAbs, 1⟩ else ⟨n, Nat.pow 2 e.natAbs⟩

/-- The number divided by `10 ^ k`. -/
def Ratio.perPowerOfTen (r : Ratio) (k : Int) : Ratio :=
  if 0 ≤ k then ⟨r.num, r.den * Nat.pow 10 k.natAbs⟩ else ⟨r.num * Nat.pow 10 k.natAbs, r.den⟩

/-- The real numbers that round to a double: the two ends, in the same unit as the double itself,
and whether the ends belong to it. Below a power of two the neighbour is half as far away. -/
structure Interval where
  low : Nat
  mid : Nat
  high : Nat
  exponent : Int
  closed : Bool

/-- The interval of a positive double. A tie goes to the even significand, so the ends belong to
the even ones. -/
def Interval.of (m : Magnitude) : Interval :=
  let narrow :=
    m.significand = Nat.pow 2 Magnitude.fractionBits ∧ Magnitude.leastExponent < m.exponent
  { low := 4 * m.significand - (if narrow then 1 else 2)
    mid := 4 * m.significand
    high := 4 * m.significand + 2
    exponent := m.exponent - 2
    closed := m.significand % 2 = 0 }

/-- Whether the grid point `n * 10 ^ k` lies in the interval. -/
def Interval.contains (i : Interval) (n : Nat) (k : Int) : Bool :=
  let low := (Ratio.scaled i.low i.exponent).perPowerOfTen k
  let high := (Ratio.scaled i.high i.exponent).perPowerOfTen k
  if i.closed then low.num ≤ n * low.den && n * high.den ≤ high.num
  else low.num < n * low.den && n * high.den < high.num

/-- The point of the grid of step `10 ^ k` to print for the interval's double, if the grid has one:
of the two neighbours the nearer one, and the even one when both are equally near. -/
def Interval.onGrid (i : Interval) (k : Int) : Option Nat :=
  let v := (Ratio.scaled i.mid i.exponent).perPowerOfTen k
  let below := v.num / v.den
  let rest := v.num % v.den
  let preferBelow := 2 * rest < v.den || (2 * rest = v.den && below % 2 = 0)
  let (first, second) := if preferBelow then (below, below + 1) else (below + 1, below)
  if i.contains first k then some first
  else if i.contains second k then some second
  else none

/-- The power of ten of the leading digit, at most one too small. -/
def leadingPower (m : Magnitude) : Int :=
  ((m.significand.log2 + m.exponent) * 1233) / 4096

/-- Search grids of ever finer step. Seventeen digits always suffice, so the search has a bound. -/
def search (i : Interval) (k : Int) : Nat → Nat × Int
  | 0 => (0, k)
  | fuel + 1 =>
    match i.onGrid k with
    | some n => (n, k)
    | none => search i (k - 1) fuel

/-- Drop zeros at the end of a digit string, each raising the power of ten by one. -/
def dropZeros (n : Nat) (k : Int) : Nat → Nat × Int
  | 0 => (n, k)
  | fuel + 1 => if n ≠ 0 ∧ n % 10 = 0 then dropZeros (n / 10) (k + 1) fuel else (n, k)

/-- The shortest digits of a positive double and the power of ten of the last of them. -/
def digits (m : Magnitude) : Nat × Int :=
  let (n, k) := search (Interval.of m) (leadingPower m + 1) 20
  dropZeros n k 20

/-- The layout of a positive number with the decimal digits `ds`, the last of which counts
`10 ^ k`: with a point when the number has at most sixteen places before it or starts within the
fifth place after it, otherwise with one digit before the point and an exponent. -/
def layout (ds : List Char) (k : Int) : List Char :=
  let point := ds.length + k
  if 0 ≤ k ∧ point ≤ 16 then ds ++ List.replicate k.toNat '0' ++ ['.', '0']
  else if 0 < point ∧ point ≤ 16 then
    ds.take point.toNat ++ '.' :: ds.drop point.toNat
  else if -5 < point ∧ point ≤ 0 then
    '0' :: '.' :: List.replicate (-point).toNat '0' ++ ds
  else
    let exponent := 'e' :: (toString (point - 1)).toList
    match ds with
    | [] => exponent
    | [d] => d :: exponent
    | d :: more => d :: '.' :: more ++ exponent

/-- The text of a finite double. -/
def render (x : Float) : List Char :=
  let m := Magnitude.ofFloat x
  let body :=
    if m.significand = 0 then ['0', '.', '0']
    else
      let (n, k) := digits m
      layout (toString n).toList k
  if Float.signBit x then '-' :: body else body

end HomeEnergy.Shortest
