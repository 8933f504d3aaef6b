import HomeEnergy.Document.Json.Reader

/-!
# Exact documents

A form of documents in which nothing is lost when they are compared: a double is the hexadecimal
text of its bits, and a whole number that a double cannot hold is the text of its digits.

## Main results

* `Hex.number?`, `Hex.digits` — numbers in hexadecimal.
* `Float.pattern`, `Float.ofPattern?` — doubles as texts.
* `Document.exact` — documents without doubles.
-/

namespace HomeEnergy

namespace Hex

/-- The number that hexadecimal digits write. -/
def number? (s : List Char) : Option Nat :=
  s.foldlM (fun n c => (Json.hexValue? c).map (16 * n + ·)) 0

/-- At least so many hexadecimal digits of a number. -/
def digits (width n : Nat) : String :=
  let s := Nat.toDigits 16 n
  String.ofList (List.replicate (width - s.length) '0' ++ s)

/-- The bytes that pairs of hexadecimal digits write. -/
def bytes? : List Char → Option (List UInt8)
  | [] => some []
  | a :: b :: rest => do return UInt8.ofNat (← number? [a, b]) :: (← bytes? rest)
  | _ => none

/-- Bytes as pairs of hexadecimal digits. -/
def ofBytes (bytes : List UInt8) : String := String.join (bytes.map fun b => digits 2 b.toNat)

end Hex

/-- The text of a double: the digits of its bits, or a word if it is not finite. -/
def Float.pattern (x : Float) : String :=
  if x.isNaN then "nan"
  else if x.isInf then if x < 0.0 then "-inf" else "inf"
  else Hex.digits 16 x.toBits.toNat

/-- The double of a text. -/
def Float.ofPattern? : String → Option Float
  | "nan" => some (0.0 / 0.0)
  | "inf" => some (1.0 / 0.0)
  | "-inf" => some (-(1.0 / 0.0))
  | s =>
    if s.length = 16 then (Hex.number? s.toList).map fun n => Float.ofBits (UInt64.ofNat n)
    else none

namespace Document

mutual

/-- A document without doubles, large numbers and members of one name. A double that is not finite
becomes the null. -/
def exact (dropped : String) : Document → Document
  | float x => if x.isFinite then text (Float.pattern x) else null
  | int n => if n.natAbs > Nat.pow 2 53 then text (toString n) else int n
  | list items => list (exactItems dropped items)
  | map members => map (exactMembers dropped members)
  | d => d

/-- The items of a list. -/
def exactItems (dropped : String) : List Document → List Document
  | [] => []
  | d :: rest => d.exact dropped :: exactItems dropped rest

/-- The members of a map. -/
def exactMembers (dropped : String) : List (String × Document) → List (String × Document)
  | [] => []
  | (k, d) :: rest =>
    if k = dropped then exactMembers dropped rest
    else (k, d.exact dropped) :: exactMembers dropped rest

end

end Document

end HomeEnergy
