import HomeEnergy.Decimal.Numeral
import HomeEnergy.Text.Blank

/-!
# Levels of a log

The five levels of log lines, the two sets of words they are asked for by, and the filter that a
service starts with.
-/

namespace HomeEnergy

/-- The level of a log line, least severe first. -/
inductive LogLevel where
  | trace
  | debug
  | info
  | warn
  | error
deriving DecidableEq, Repr, Inhabited

namespace LogLevel

/-- The word for a level in log lines. -/
def name : LogLevel → String
  | trace => "TRACE"
  | debug => "DEBUG"
  | info => "INFO"
  | warn => "WARN"
  | error => "ERROR"

/-- The word for a level in filters. -/
def word : LogLevel → String
  | trace => "trace"
  | debug => "debug"
  | info => "info"
  | warn => "warn"
  | error => "error"

/-- The level of a word, in any letter case. -/
def ofWord? (text : String) : Option LogLevel :=
  [trace, debug, info, warn, error].find? (·.word.toList == Text.lowered text.toList)

/-- The level that an argument asks for; anything but the word of a level means `info`. -/
def ofArgument (text : String) : LogLevel :=
  if Text.lowered text.toList = "warning".toList then warn else (ofWord? text).getD info

/-- How severe a level is, from one for the most severe on. -/
def rank : LogLevel → Nat
  | error => 1
  | warn => 2
  | info => 3
  | debug => 4
  | trace => 5

/-- The level that a word names or a numeral ranks. -/
def ofText? (text : String) : Option LogLevel :=
  match ofWord? text, readInteger 64 text.toList with
  | some level, _ => some level
  | none, .ok n => [error, warn, info, debug, trace].find? (·.rank == n)
  | none, .error _ => none

end LogLevel

/-- The filter that a service starts with: everything at its level, and at the usual level a little
more of its own. -/
def defaultFilter (service : String) (level : LogLevel) : String :=
  let own := if level = .info then LogLevel.debug else level
  level.word ++ "," ++ service ++ "=" ++ own.word

end HomeEnergy
