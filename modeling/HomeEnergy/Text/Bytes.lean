/-!
# Texts in bytes

Bytes that should be UTF-8 are read as a text in which every malformed part is replaced by the
replacement character. A malformed part is as long as it is a start of something well-formed, and at
least one byte.

## Main results

* `Text.lenient` — the text of any bytes.
-/

namespace HomeEnergy.Text

/-- The character in place of what is malformed. -/
def replacement : Char := '\ufffd'

/-- A byte that continues a character. -/
def isContinuation (b : UInt8) : Bool := 0x80 ≤ b && b ≤ 0xBF

/-- Whether two bytes may start a character of several bytes. Forms that are too long, surrogates
and numbers beyond the last character are told by the second byte. -/
def startsCharacter (first second : UInt8) : Bool :=
  if first = 0xE0 then 0xA0 ≤ second && second ≤ 0xBF
  else if first = 0xED then 0x80 ≤ second && second ≤ 0x9F
  else if first = 0xF0 then 0x90 ≤ second && second ≤ 0xBF
  else if first = 0xF4 then 0x80 ≤ second && second ≤ 0x8F
  else isContinuation second

/-- The number of bytes of a character by its first byte; zero if no character starts with it. -/
def characterLength (first : UInt8) : Nat :=
  if first < 0x80 then 1
  else if 0xC2 ≤ first ∧ first ≤ 0xDF then 2
  else if 0xE0 ≤ first ∧ first ≤ 0xEF then 3
  else if 0xF0 ≤ first ∧ first ≤ 0xF4 then 4
  else 0

/-- The six low bits of a continuation. -/
def low6 (b : UInt8) : Nat := b.toNat % 0x40

/-- The first character of bytes and the number of bytes that it takes up. -/
def firstCharacter (first : UInt8) (rest : List UInt8) : Char × Nat :=
  let a := first.toNat
  match characterLength first, rest with
  | 1, _ => (Char.ofNat a, 1)
  | 2, b :: _ =>
    if isContinuation b then (Char.ofNat (a % 0x20 * 0x40 + low6 b), 2) else (replacement, 1)
  | 3, b :: c :: _ =>
    if !startsCharacter first b then (replacement, 1)
    else if !isContinuation c then (replacement, 2)
    else (Char.ofNat ((a % 0x10 * 0x40 + low6 b) * 0x40 + low6 c), 3)
  | 3, [b] => (replacement, if startsCharacter first b then 2 else 1)
  | 4, b :: c :: d :: _ =>
    if !startsCharacter first b then (replacement, 1)
    else if !isContinuation c then (replacement, 2)
    else if !isContinuation d then (replacement, 3)
    else (Char.ofNat (((a % 8 * 0x40 + low6 b) * 0x40 + low6 c) * 0x40 + low6 d), 4)
  | 4, [b, c] =>
    (replacement, if !startsCharacter first b then 1 else if isContinuation c then 3 else 2)
  | 4, [b] => (replacement, if startsCharacter first b then 2 else 1)
  | _, _ => (replacement, 1)

/-- The characters of bytes. Each step takes at least one byte, so their number bounds the steps. -/
def lenientWithin : Nat → List UInt8 → List Char
  | 0, _ => []
  | _ + 1, [] => []
  | fuel + 1, b :: rest =>
    let (c, count) := firstCharacter b rest
    c :: lenientWithin fuel (rest.drop (count - 1))

/-- The text of bytes. -/
def lenient (bytes : ByteArray) : String :=
  String.ofList (lenientWithin (bytes.size + 1) bytes.toList)

end HomeEnergy.Text
