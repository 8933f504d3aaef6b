import HomeEnergy.Document.Json
import HomeEnergy.Log.Level
import HomeEnergy.Text.Quoted
import HomeEnergy.Timestamp

/-!
# Lines of a log

A line tells what has happened, how severe that is, and which part of the program tells it. It is
written as a text for people or as a document.

## Main results

* `LogEntry.text` — a line as a text, behind the time.
* `LogEntry.toDocument` — a line as a document, without the time.
* `LogEntry.line` — a line as it is written.
-/

namespace HomeEnergy

/-- A further value of a line. -/
structure LogField where
  name : String
  value : String
  /-- Whether the value stands in quotes in a text. -/
  isQuoted : Bool := false
deriving DecidableEq, Repr

/-- One line of a log. -/
structure LogEntry where
  level : LogLevel
  /-- The part of the program. -/
  target : String
  message : String
  fields : List LogField := []
deriving DecidableEq, Repr

namespace LogEntry

/-- Switch the colour of a terminal. -/
def colour (code : String) : String := "\x1b[" ++ code ++ "m"

/-- The code of the colour of a level. -/
def code : LogLevel → String
  | .trace => "35"
  | .debug => "34"
  | .info => "32"
  | .warn => "33"
  | .error => "31"

/-- The mark of a level. -/
def mark (coloured : Bool) (level : LogLevel) : String :=
  let plain := "[" ++ level.name ++ "]"
  if coloured then colour (code level) ++ plain ++ colour "0" else plain

/-- A field in a text. -/
def field (coloured : Bool) (f : LogField) : String :=
  let value := if f.isQuoted then Text.quoted f.value else f.value
  if coloured then
    " " ++ colour "3" ++ f.name ++ colour "0" ++ colour "2" ++ "=" ++ colour "0" ++ value
  else " " ++ f.name ++ "=" ++ value

/-- A line as a text, without the time in front. -/
def text (coloured : Bool) (e : LogEntry) : String :=
  mark coloured e.level ++ " " ++ e.message
    ++ String.join (e.fields.map (field coloured))

/-- A line as a document, without the time. -/
def toDocument (e : LogEntry) : Document :=
  .map [("level", .text e.level.name), ("target", .text e.target),
    ("fields",
      .map (("message", .text e.message) :: e.fields.map fun f => (f.name, .text f.value)))]

/-- A line as it is written at some time: for people, or as a document. -/
def line (time : Timestamp) (json coloured : Bool) (e : LogEntry) : String :=
  if json then
    match e.toDocument with
    | .map members => Json.text (.map (("timestamp", .text time.stamp) :: members))
    | d => Json.text d
  else time.stamp ++ " " ++ e.text coloured

end LogEntry

end HomeEnergy
