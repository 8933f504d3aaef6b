import HomeEnergy.Text.Blank
import HomeEnergy.Decimal.Numeral

/-!
# Points in time

A record carries the moment at which it was taken, to the nanosecond, in the proleptic Gregorian
calendar. It is written in universal time; when read, any offset from it is allowed.

## Main results

* `Timestamp.render` — date and time with a `T` between them and a `Z` behind.
* `Timestamp.stamp` — the same to the microsecond, for logs.
* `Timestamp.read` — the moment that a text gives.
-/

namespace HomeEnergy

/-- A moment: seconds since the start of 1970 and nanoseconds beyond them. -/
structure Timestamp where
  seconds : Int
  nanos : Nat := 0
deriving DecidableEq, Repr, Inhabited

/-- A calendar date. -/
structure Date where
  year : Int
  month : Nat
  day : Nat
deriving DecidableEq, Repr

namespace Date

/-- Whether a year has a leap day. -/
def isLeap (year : Int) : Bool :=
  year % 4 = 0 && (year % 100 ≠ 0 || year % 400 = 0)

/-- The number of days in a month. -/
def daysIn (year : Int) (month : Nat) : Nat :=
  if month = 2 then if isLeap year then 29 else 28
  else if month ∈ [4, 6, 9, 11] then 30
  else 31

/-- Days from the start of 1970 to a date. Years are counted from March, so that the leap day comes
last. -/
def toDays (d : Date) : Int :=
  let year := if d.month ≤ 2 then d.year - 1 else d.year
  let era := year / 400
  let yearOfEra := year - era * 400
  let shifted : Int := if d.month ≤ 2 then d.month + 9 else d.month - 3
  let dayOfYear := (153 * shifted + 2) / 5 + d.day - 1
  era * 146097 + yearOfEra * 365 + yearOfEra / 4 - yearOfEra / 100 + dayOfYear - 719468

/-- The date that many days after the start of 1970. -/
def ofDays (days : Int) : Date :=
  let z := days + 719468
  let era := z / 146097
  let dayOfEra := z - era * 146097
  let yearOfEra := (dayOfEra - dayOfEra / 1460 + dayOfEra / 36524 - dayOfEra / 146096) / 365
  let dayOfYear := dayOfEra - (365 * yearOfEra + yearOfEra / 4 - yearOfEra / 100)
  let shifted := (5 * dayOfYear + 2) / 153
  let month := if shifted < 10 then shifted + 3 else shifted - 9
  let year := yearOfEra + era * 400
  ⟨if month ≤ 2 then year + 1 else year, month.toNat,
    (dayOfYear - (153 * shifted + 2) / 5 + 1).toNat⟩

example : toDays ⟨1970, 1, 1⟩ = 0 := by decide
example : toDays ⟨2024, 2, 29⟩ = 19782 := by decide
example : ofDays 19782 = ⟨2024, 2, 29⟩ := by decide

end Date

namespace Timestamp

/-- A number with zeros in front up to a width. -/
def padded (width n : Nat) : String :=
  let digits := toString n
  String.ofList (List.replicate (width - digits.length) '0') ++ digits

/-- A moment given by milliseconds since the start of 1970. -/
def ofMillis (ms : Nat) : Timestamp := ⟨ms / 1000, ms % 1000 * 1000000⟩

/-- A moment given by nanoseconds since the start of 1970. -/
def ofNanos (ns : Nat) : Timestamp := ⟨ns / 1000000000, ns % 1000000000⟩

/-- The digits behind the seconds: none, three, six or nine, as many as are needed. -/
def fraction (nanos : Nat) : String :=
  if nanos = 0 then ""
  else if nanos % 1000000 = 0 then "." ++ padded 3 (nanos / 1000000)
  else if nanos % 1000 = 0 then "." ++ padded 6 (nanos / 1000)
  else "." ++ padded 9 nanos

/-- The text of a moment, in universal time, with given digits behind the seconds. -/
def written (t : Timestamp) (fraction : String) : String :=
  let date := Date.ofDays (t.seconds / 86400)
  let second := (t.seconds % 86400).toNat
  let year :=
    if 0 ≤ date.year ∧ date.year ≤ 9999 then padded 4 date.year.toNat
    else (if date.year < 0 then "-" else "+") ++ padded 4 date.year.natAbs
  year ++ "-" ++ padded 2 date.month ++ "-" ++ padded 2 date.day ++ "T"
    ++ padded 2 (second / 3600) ++ ":" ++ padded 2 (second / 60 % 60) ++ ":"
    ++ padded 2 (second % 60) ++ fraction ++ "Z"

/-- The text of a moment, in universal time. -/
def render (t : Timestamp) : String := t.written (fraction t.nanos)

/-- The text of a moment to the microsecond, always with six digits. -/
def stamp (t : Timestamp) : String := t.written ("." ++ padded 6 (t.nanos / 1000))

/-- Up to `width` digits at the start of a text, at least one, behind any blanks. -/
def takeNumber (width : Nat) (text : List Char) : Option (Nat × List Char) :=
  let text := Text.dropBlank text
  let digits := (text.take width).takeWhile Char.isDigit
  if digits = [] then none else some (Decimal.value digits, text.drop digits.length)

/-- A year: four digits, or a sign and any number of them. -/
def takeYear (text : List Char) : Option (Int × List Char) :=
  match Text.dropBlank text with
  | '+' :: rest => (takeNumber rest.length rest).map fun (n, more) => ((n : Int), more)
  | '-' :: rest => (takeNumber rest.length rest).map fun (n, more) => (-(n : Int), more)
  | text => (takeNumber 4 text).map fun (n, more) => ((n : Int), more)

/-- A separator, behind any blanks. -/
def takeMark (mark : Char) (text : List Char) : Option (List Char) :=
  Text.after? [mark] (Text.dropBlank text)

/-- The nanoseconds behind the seconds, cut off after nine digits. -/
def takeFraction (text : List Char) : Option (Nat × List Char) :=
  match text with
  | '.' :: rest =>
    let digits := rest.takeWhile Char.isDigit
    if digits = [] then none
    else
      let kept := digits.take 9
      some (Decimal.value kept * Nat.pow 10 (9 - kept.length), rest.drop digits.length)
  | _ => some (0, text)

/-- The two digits of an hour or minute of an offset. -/
def takePair (text : List Char) : Option (Nat × List Char) :=
  match text with
  | a :: b :: rest => if a.isDigit ∧ b.isDigit then some (Decimal.value [a, b], rest) else none
  | _ => none

/-- The offset from universal time in seconds: a letter that stands for none, or a sign, hours and
minutes. -/
def takeOffset (text : List Char) : Option (Int × List Char) :=
  let text := Text.dropBlank text
  if Text.lowered (text.take 3) = "utc".toList then some (0, text.drop 3)
  else
    match text with
    | 'Z' :: rest | 'z' :: rest => some (0, rest)
    | sign :: rest => do
      let negative ← if sign = '+' then some false
        else if sign = '-' ∨ sign = '\u2212' then some true else none
      let (hours, rest) ← takePair rest
      let rest := rest.dropWhile fun c => c = ':' || Text.isBlank c
      let (minutes, rest) ← takePair rest
      if 59 < minutes then none
      else
        let offset : Int := hours * 3600 + minutes * 60
        return (if negative then -offset else offset, rest)
    | [] => none

/-- The moment that a text gives: date, time and offset, with blanks allowed around the marks. The
second 60 counts as the end of the second 59. -/
def read (s : String) : Option Timestamp := do
  let (year, text) ← takeYear s.toList
  let (month, text) ← takeNumber 2 (← takeMark '-' text)
  let (day, text) ← takeNumber 2 (← takeMark '-' text)
  let text ← match text with
    | 't' :: rest | 'T' :: rest | ' ' :: rest => some rest
    | _ => none
  let (hour, text) ← takeNumber 2 text
  let (minute, text) ← takeNumber 2 (← takeMark ':' text)
  let (second, text) ← takeNumber 2 (← takeMark ':' text)
  let (nanos, text) ← takeFraction text
  let (offset, text) ← takeOffset text
  if Text.dropBlank text ≠ [] ∨ month < 1 ∨ 12 < month ∨ day < 1 ∨ Date.daysIn year month < day
      ∨ 23 < hour ∨ 59 < minute ∨ 60 < second ∨ 86400 ≤ offset.natAbs ∨ 262142 < year.natAbs then
    none
  else
    let time : Int := hour * 3600 + minute * 60 + min second 59
    return ⟨Date.toDays ⟨year, month, day⟩ * 86400 + time - offset,
      if second = 60 then nanos + 1000000000 else nanos⟩

end Timestamp

end HomeEnergy
