import HomeEnergy.Log.Entry

/-!
# Filters of a log

A filter is a list of directives: a level for everything, or a level for the parts of the program
whose names have a given start. The longest start that fits counts.

## Main results

* `LogFilter.read` — the filter that a text writes.
* `LogFilter.allows` — whether a line passes.
-/

namespace HomeEnergy

/-- One directive: lines of targets with this start pass up to a level, or not at all. -/
structure LogDirective where
  target : String := ""
  level : Option LogLevel
deriving DecidableEq, Repr

/-- A filter. -/
abbrev LogFilter := List LogDirective

namespace LogFilter

/-- The level of a word or a digit in a filter, or none if nothing passes. -/
def level? (s : String) : Option (Option LogLevel) :=
  match String.ofList (Text.lowered s.toList) with
  | "off" | "0" => some none
  | "1" => some (some .error)
  | "2" => some (some .warn)
  | "3" => some (some .info)
  | "4" => some (some .debug)
  | "5" => some (some .trace)
  | _ => (LogLevel.ofWord? s).map some

/-- Whether a text may be the start of a target. -/
def isTarget (s : String) : Bool :=
  s ≠ "" && s.toList.all fun c => c.isAlphanum || ['_', ':', '-'].contains c

/-- The directive that a text writes. A target alone lets everything pass. -/
def directive? (s : String) : Option LogDirective :=
  match level? s with
  | some level => some { level }
  | none =>
    match s.splitOn "=" with
    | [target] | [target, ""] => if isTarget target then some ⟨target, some .trace⟩ else none
    | [target, word] =>
      if isTarget target then (level? word).map fun level => ⟨target, level⟩ else none
    | _ => none

/-- The filter that a text writes. Without a directive only errors pass. -/
def read (s : String) : Option LogFilter :=
  match ((s.splitOn ",").filter (· ≠ "")).mapM directive? with
  | some [] => some [⟨"", some .error⟩]
  | directives => directives

/-- The longer of two directives' targets counts; of equal ones the later. -/
def stronger (a b : LogDirective) : LogDirective :=
  if a.target.length ≤ b.target.length then b else a

/-- Whether a line passes. -/
def allows (f : LogFilter) (e : LogEntry) : Bool :=
  let fitting := f.filter fun d => (Text.after? d.target.toList e.target.toList).isSome
  match fitting with
  | [] => false
  | d :: rest => (rest.foldl stronger d).level.any fun level => e.level.rank ≤ level.rank

end LogFilter

end HomeEnergy
