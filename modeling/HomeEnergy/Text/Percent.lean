import HomeEnergy.Document.Json.Reader
import HomeEnergy.Text.Bytes

/-!
# Percent signs in addresses

In an address a byte may be written as a percent sign and two hexadecimal digits. A percent sign
without two digits behind it stands for itself.

## Main results

* `Percent.decode` — the bytes of a text.
* `Percent.form` — the names and values of a form.
-/

namespace HomeEnergy.Percent

/-- Bytes with their percent signs resolved. -/
def resolve : List UInt8 → List UInt8
  | 0x25 :: a :: b :: rest =>
    match Json.hexValue? (Char.ofNat a.toNat), Json.hexValue? (Char.ofNat b.toNat) with
    | some m, some n => UInt8.ofNat (16 * m + n) :: resolve rest
    | _, _ => 0x25 :: resolve (a :: b :: rest)
  | b :: rest => b :: resolve rest
  | [] => []

/-- The bytes that a text writes. -/
def decode (text : String) : List UInt8 := resolve text.toUTF8.toList

/-- The text that a part of an address writes, if its bytes are one. -/
def text? (part : String) : Option String := String.fromUTF8? ⟨(decode part).toArray⟩

/-! ## Forms -/

/-- The parts of bytes between separators. -/
def partsAt (separator : UInt8) : List UInt8 → List (List UInt8)
  | [] => [[]]
  | b :: rest =>
    if b = separator then [] :: partsAt separator rest
    else
      match partsAt separator rest with
      | [] => [[b]]
      | p :: ps => (b :: p) :: ps

/-- A name or value of a form: a plus sign is a space. Malformed bytes are replaced. -/
def formText (bytes : List UInt8) : String :=
  Text.lenient ⟨(resolve (bytes.map fun b => if b = 0x2B then 0x20 else b)).toArray⟩

/-- The names and values of a form, which is written as `name=value` with ampersands between. -/
def form (query : String) : List (String × String) :=
  ((partsAt 0x26 query.toUTF8.toList).filter (· ≠ [])).map fun part =>
    (formText (part.takeWhile (· != 0x3D)), formText ((part.dropWhile (· != 0x3D)).drop 1))

end HomeEnergy.Percent
