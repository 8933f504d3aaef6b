import HomeEnergy.Service.Help

/-!
# What a run of the service shows

A run shows log lines, at its end a complaint if it has failed, and an exit code. How far it gets is
decided by its arguments, the filter of its log, its settings, and at last by its life with its
modules.

## Main results

* `Service.report` — what a run shows, given what its life would show.
-/

namespace HomeEnergy

namespace ArgumentFault

/-- The exit code of a run whose command line is not carried out. -/
def exitCode (f : ArgumentFault) : Nat := if f.isAnswer then 0 else 2

end ArgumentFault

namespace Service

/-- What a run of the service shows. -/
structure Report where
  exit : Nat
  /-- Whether the log was set up. -/
  isLogged : Bool
  /-- The answer to a question on the command line. -/
  answer : List String := []
  /-- Log lines, in their order. -/
  lines : List LogEntry := []
  /-- Why the run has failed. -/
  complaint : Option String := none
deriving DecidableEq, Repr

namespace Report

/-- A run that ends well. -/
def success (lines : List LogEntry) : Report :=
  { exit := 0, isLogged := true, lines }

/-- What a failed run complains of. -/
def complaining (reason : String) : Option String := some ("Error: " ++ reason)

/-- A run that fails. -/
def failure (lines : List LogEntry) (reason : String) : Report :=
  { exit := 1, isLogged := true, lines, complaint := complaining reason }

/-- A run whose command line is not carried out. -/
def refusal (f : ArgumentFault) : Report :=
  { exit := f.exitCode, isLogged := false, answer := Service.answer f }

/-- A run without a log. -/
def unlogged (reason : String) : Report :=
  { exit := 1, isLogged := false, complaint := complaining reason }

/-- The lines that pass a filter. -/
def filtered (r : Report) (f : LogFilter) : Report := { r with lines := r.lines.filter f.allows }

end Report

/-- What a run shows once its arguments are known and its log is there. -/
def progress (a : Arguments) (file : Option String) (environment : List (String × String))
    (live : CollectorSettings → List LogEntry × Except String Unit) : Report :=
  match configure a file environment with
  | .error f => .failure (greeting a) f.message
  | .ok s =>
    if a.validate then .success (greeting a ++ [checked s])
    else
      match live s with
      | (lines, .ok ()) => .success (greeting a ++ lines)
      | (lines, .error reason) => .failure (greeting a ++ lines) reason

/-- What a run shows. A `live` service shows log lines and perhaps why it has failed. -/
def report (a : Except ArgumentFault Arguments) (file : Option String)
    (environment : List (String × String))
    (live : CollectorSettings → List LogEntry × Except String Unit) : Report :=
  match a with
  | .error f => .refusal f
  | .ok a =>
    match filter? a environment with
    | none => .unlogged "Failed to initialize logging: invalid filter directive"
    | some f => (progress a file environment live).filtered f

end Service

end HomeEnergy
