import HomeEnergy.Document
import HomeEnergy.Span.Text
import HomeEnergy.Timestamp

/-!
# Records in documents

A record may be written as a map from field names to values or as the list of its values in the
order of the fields. A map may hold further members, but no field twice. A list that is too long is
refused, except in settings.

## Main results

* `Document.fields?` — the values given for the fields of a record.
-/

namespace HomeEnergy

/-- Whether a list may be longer than the record it stands for. -/
inductive Surplus where
  | refused
  | ignored
deriving DecidableEq, Repr

namespace Document

/-- The value of one field of a map; the outer option is empty when the field is given twice. -/
def field? (members : List (String × Document)) (name : String) : Option (Option Document) :=
  match members.filter (·.1 == name) with
  | [] => some none
  | [(_, d)] => some (some d)
  | _ => none

/-- What a document gives for each field of a record, in the order of the fields. -/
def fields? (surplus : Surplus) (names : List String) : Document → Option (List (Option Document))
  | map members => names.mapM (field? members)
  | list items =>
    if items.length ≤ names.length ∨ surplus = .ignored then
      some ((List.range names.length).map (items[·]?))
    else none
  | _ => none

/-- A field that must be given. -/
def required {α : Type} (read : Document → Option α) (value : Option Document) : Option α :=
  value.bind read

/-- A field with a value of its own for when it is not given. -/
def optional {α : Type} (default : α) (read : Document → Option α) (value : Option Document) :
    Option α :=
  match value with
  | none => some default
  | some d => read d

/-- A field that may be empty: not given, or null. -/
def nullable {α : Type} (read : Document → Option α) (value : Option Document) :
    Option (Option α) :=
  match value with
  | none | some .null => some none
  | some d => (read d).map some

/-- The span of time that a text document writes. -/
def span? (d : Document) : Option Span := d.text?.bind Span.read

/-- The moment that a text document writes. -/
def time? (d : Document) : Option Timestamp := d.text?.bind Timestamp.read

/-- The items of a list document, each read the same way. -/
def listOf? {α : Type} (read : Document → Option α) : Document → Option (List α)
  | list items => items.mapM read
  | _ => none

end Document

end HomeEnergy
