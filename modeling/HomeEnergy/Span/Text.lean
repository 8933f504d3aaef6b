import HomeEnergy.Span
import HomeEnergy.Text.Blank

/-!
# Spans of time as text

A span is written as a sum of terms such as `1h 30m 15s`. Each term is a number, possibly with
decimals, and a unit; terms may follow each other directly. The reading goes through the text once,
character by character.

## Main results

* `Span.read` — the span that a text writes.
* `Span.render` — the text of a span, from years down to nanoseconds.
-/

namespace HomeEnergy.Span

/-- A unit of time. Units up to the millisecond are counted in nanoseconds, the longer ones in
seconds. -/
structure TimeUnit where
  /-- Nanoseconds, or seconds if `coarse`. -/
  size : Nat
  coarse : Bool
deriving DecidableEq, Repr

/-- The unit with a given name. A month is a twelfth of 365.28 days, a year 365.25 days. -/
def timeUnit? (name : String) : Option TimeUnit :=
  if name ∈ ["nanos", "nsec", "ns"] then some ⟨1, false⟩
  else if name ∈ ["usec", "us", "µs"] then some ⟨1000, false⟩
  else if name ∈ ["millis", "msec", "ms"] then some ⟨1000000, false⟩
  else if name ∈ ["seconds", "second", "secs", "sec", "s"] then some ⟨1, true⟩
  else if name ∈ ["minutes", "minute", "mins", "min", "m"] then some ⟨60, true⟩
  else if name ∈ ["hours", "hour", "hrs", "hr", "h"] then some ⟨3600, true⟩
  else if name ∈ ["days", "day", "d"] then some ⟨86400, true⟩
  else if name ∈ ["weeks", "week", "wks", "wk", "w"] then some ⟨604800, true⟩
  else if name ∈ ["months", "month", "M"] then some ⟨2630016, true⟩
  else if name ∈ ["years", "year", "yrs", "yr", "y"] then some ⟨31557600, true⟩
  else none

/-- Numbers, and the amounts they are multiplied out to, must stay below this. -/
def wordLimit : Nat := Nat.pow 2 64

/-- A number of a 64-bit word, if it is one. -/
def word? (n : Nat) : Option Nat := if n < wordLimit then some n else none

/-- Add an amount to a span, unless the sum is too long. -/
def plus? (total : Span) (seconds nanos : Nat) : Option Span := do
  let fine ← word? (total.subsecond + nanos)
  let whole ← word? (total.seconds + seconds + fine / perSecond)
  return ⟨whole * perSecond + fine % perSecond⟩

/-- Add `n` units to a span. -/
def plusWhole? (total : Span) (u : TimeUnit) (n : Nat) : Option Span := do
  let amount ← word? (n * u.size)
  if u.coarse then plus? total amount 0 else plus? total 0 amount

/-- Add the fraction `num / den` of a unit to a span. Up to the minute it is counted in nanoseconds
and above in whole seconds, rounded down. -/
def plusFraction? (total : Span) (u : TimeUnit) (num den : Nat) : Option Span := do
  if u.coarse then
    if u.size ≤ 60 then
      let amount ← word? (num * (u.size * perSecond))
      plus? total 0 (amount / den)
    else
      let amount ← word? (num * u.size)
      plus? total (amount / den) 0
  else
    let amount ← word? (num * u.size)
    plus? total 0 (amount / den)

/-- How far the reading has come within a term. -/
inductive Phase where
  /-- Before a term. -/
  | between
  /-- Behind a digit of the number. -/
  | whole (n : Nat)
  /-- Behind the point; the decimals so far are `num / den`. -/
  | fraction (n num den : Nat)
  /-- Within the name of the unit, which is kept in reverse. -/
  | named (n num den : Nat) (reversed : List Char)

/-- The state of the reading: the sum of the finished terms, and where it stands. -/
structure Reading where
  total : Span
  phase : Phase

/-- Whether a character may stand in the name of a unit. -/
def isUnitLetter (c : Char) : Bool :=
  ('a' ≤ c && c ≤ 'z') || ('A' ≤ c && c ≤ 'Z') || c = 'µ'

/-- The value of a digit. -/
def digitValue (c : Char) : Nat := c.toNat - '0'.toNat

/-- Close a term: look up its unit and add it to the sum. -/
def close? (total : Span) (n num den : Nat) (reversed : List Char) : Option Span := do
  let u ← timeUnit? (String.ofList reversed.reverse)
  let total ← plusWhole? total u n
  if den = 1 then some total else plusFraction? total u num den

/-- Read one character. -/
def Reading.next (r : Reading) (c : Char) : Option Reading :=
  match r.phase with
  | .between =>
    if c.isDigit then some ⟨r.total, .whole (digitValue c)⟩
    else if Text.isBlank c then some r
    else none
  | .whole n =>
    if c.isDigit then (word? (10 * n + digitValue c)).map (⟨r.total, .whole ·⟩)
    else if Text.isBlank c then some r
    else if isUnitLetter c then some ⟨r.total, .named n 0 1 [c]⟩
    else if c = '.' then some ⟨r.total, .fraction n 0 1⟩
    else none
  | .fraction n num den =>
    if c.isDigit then do
      let den ← word? (10 * den)
      let num ← word? (10 * num + digitValue c)
      return ⟨r.total, .fraction n num den⟩
    else if Text.isBlank c then some r
    else if isUnitLetter c ∧ den ≠ 1 then some ⟨r.total, .named n num den [c]⟩
    else none
  | .named n num den reversed =>
    if c.isDigit then
      (close? r.total n num den reversed).map (⟨·, .whole (digitValue c)⟩)
    else if Text.isBlank c then (close? r.total n num den reversed).map (⟨·, .between⟩)
    else if isUnitLetter c then some ⟨r.total, .named n num den (c :: reversed)⟩
    else none

/-- Read the characters one after the other. -/
def Reading.run (r : Reading) : List Char → Option Reading
  | [] => some r
  | c :: rest => (r.next c).bind (·.run rest)

/-- The span at the end of a text: a term must be complete. -/
def Reading.finish (r : Reading) : Option Span :=
  match r.phase with
  | .between => some r.total
  | .named n num den reversed => close? r.total n num den reversed
  | _ => none

/-- The span that a text writes. A lone zero needs no unit; a text without any term is no span. -/
def read (s : String) : Option Span :=
  if s = "0" then some ⟨0⟩
  else if s.toList.all Text.isBlank then none
  else ((Reading.mk ⟨0⟩ .between).run s.toList).bind Reading.finish

/-- A term with a short unit, unless it is zero. -/
def term (n : Nat) (unit : String) : List String := if n = 0 then [] else [toString n ++ unit]

/-- A term with a spelt-out unit in the singular or plural, unless it is zero. -/
def longTerm (n : Nat) (unit : String) : List String :=
  if n = 0 then [] else if n = 1 then ["1" ++ unit] else [toString n ++ unit ++ "s"]

/-- The text of a span: its terms from years down to nanoseconds, separated by spaces. -/
def render (d : Span) : String :=
  let s := d.seconds
  let f := d.subsecond
  if s = 0 ∧ f = 0 then "0s"
  else
    " ".intercalate <|
      longTerm (s / 31557600) "year" ++ longTerm (s % 31557600 / 2630016) "month"
        ++ longTerm (s % 31557600 % 2630016 / 86400) "day"
        ++ term (s % 31557600 % 2630016 % 86400 / 3600) "h"
        ++ term (s % 31557600 % 2630016 % 86400 % 3600 / 60) "m"
        ++ term (s % 31557600 % 2630016 % 86400 % 60) "s"
        ++ term (f / 1000000) "ms" ++ term (f / 1000 % 1000) "us" ++ term (f % 1000) "ns"

/-- A count of small units as a decimal number of a unit of `10 ^ places` of them. -/
def decimal (places n : Nat) (unit : String) : String :=
  let digits := toString (n % Nat.pow 10 places)
  let fraction := List.replicate (places - digits.length) '0' ++ digits.toList
  let kept := Text.dropTrailing '0' fraction
  toString (n / Nat.pow 10 places) ++ (if kept = [] then "" else "." ++ String.ofList kept) ++ unit

/-- A short text of a span: a decimal number of its largest unit from seconds down. -/
def brief (d : Span) : String :=
  if Nat.pow 10 9 ≤ d.nanos then decimal 9 d.nanos "s"
  else if Nat.pow 10 6 ≤ d.nanos then decimal 6 d.nanos "ms"
  else if Nat.pow 10 3 ≤ d.nanos then decimal 3 d.nanos "µs"
  else decimal 0 d.nanos "ns"

end HomeEnergy.Span
