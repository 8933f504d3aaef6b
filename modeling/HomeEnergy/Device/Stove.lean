import HomeEnergy.Text.Blank
import HomeEnergy.Text.Word
import HomeEnergy.Document.Fields
import HomeEnergy.Fault

/-!
# The stove

A Hafnertec stove shows its state on a page. The readings stand in the page's `div` elements, each
at a fixed place in the order of the document. An element reaches from its opening tag to the next
closing tag; what stands before and between elements does not matter.

## Main results

* `Stove.contents` — the texts of the elements of a page.
* `Stove.readNumber` — the number in a text with units and other ornaments.
* `Stove.read` — one reading, from a page.
-/

namespace HomeEnergy.Stove

/-- The name of the device in messages. -/
def device : String := "hafnertec"

/-! ## Elements -/

/-- The rest behind a tag's start, given in small letters; the text may use either case. -/
def afterTag? (start text : List Char) : Option (List Char) :=
  if (text.take start.length).map Char.toLower = start then some (text.drop start.length) else none

/-- The text behind an opening tag that starts here. The tag's name must end where a word ends, and
the tag at the next angle bracket. -/
def afterOpening? (text : List Char) : Option (List Char) := do
  let rest ← afterTag? "<div".toList text
  if (rest.head?.map Text.isWordChar).getD false then none
  else
    match rest.dropWhile (· ≠ '>') with
    | [] => none
    | _ :: more => some more

/-- The content up to the next closing tag, and the text behind that tag. -/
def untilClosing : List Char → Option (List Char × List Char)
  | [] => none
  | c :: rest =>
    match afterTag? "</div>".toList (c :: rest) with
    | some more => some ([], more)
    | none => (untilClosing rest).map fun (content, more) => (c :: content, more)

/-- The contents of the elements that start in a text, in order. Each step takes at least one
character, so the length bounds the steps. -/
def contentsWithin : Nat → List Char → List (List Char)
  | 0, _ => []
  | _ + 1, [] => []
  | fuel + 1, c :: rest =>
    match (afterOpening? (c :: rest)).bind untilClosing with
    | some (content, more) => Text.trim content :: contentsWithin fuel more
    | none => contentsWithin fuel rest

/-- The contents of a page's elements without the blanks around them. -/
def contents (page : String) : List String :=
  (contentsWithin page.length page.toList).map String.ofList

/-! ## Numbers -/

/-- The span of a text from its first digit to its last, with the sign directly before it. -/
def digitSpan (text : List Char) : List Char :=
  let fromFirst := text.dropWhile (!·.isDigit)
  let span := (fromFirst.reverse.dropWhile (!·.isDigit)).reverse
  match (text.takeWhile (!·.isDigit)).getLast? with
  | some '-' => '-' :: span
  | some '+' => '+' :: span
  | _ => span

/-- The number in a text; zero if there is none. -/
def readNumber (text : String) : Float :=
  match readFloat (digitSpan text.toList) with
  | .ok x => x
  | .error _ => 0.0

/-! ## Readings -/

/-- One reading of the device. -/
structure Record where
  time : Timestamp
  /-- Degrees Celsius, like flow and return. -/
  chamber : Float
  /-- Percent, like throughput and fan. -/
  heatingShare : Float
  flow : Float
  returned : Float
  throughput : Float
  fan : Float

/-- The number of elements that a page must have. -/
def leastElements : Nat := 10

/-- Read a page. The readings stand at the places 1 to 5 and 9, counted from zero. -/
def read (time : Timestamp) (page : String) : Outcome Record :=
  let texts := contents page
  if texts.length < leastElements then
    .error (.protocol device ("expected at least " ++ toString leastElements
      ++ " fields in schematic, got " ++ toString texts.length))
  else
    let at_ (place : Nat) : Float := readNumber (texts[place]?.getD "")
    .ok {
      time
      chamber := at_ 1
      heatingShare := at_ 2
      flow := at_ 3
      returned := at_ 4
      throughput := at_ 5
      fan := at_ 9 }

/-- The document of a reading. -/
def Record.toDocument (r : Record) : Document :=
  .map [("timestamp", .text r.time.render), ("chamber_temperature", .float r.chamber),
    ("heating_share", .float r.heatingShare), ("flow_temperature", .float r.flow),
    ("return_temperature", .float r.returned), ("throughput", .float r.throughput),
    ("fan", .float r.fan)]

/-- The reading that a document gives. -/
def Record.ofDocument (d : Document) : Option Record := do
  let [time, chamber, heatingShare, flow, returned, throughput, fan] ← d.fields? .refused
    ["timestamp", "chamber_temperature", "heating_share", "flow_temperature",
      "return_temperature", "throughput", "fan"] | none
  return {
    time := ← Document.required Document.time? time
    chamber := ← Document.required Document.number? chamber
    heatingShare := ← Document.required Document.number? heatingShare
    flow := ← Document.required Document.number? flow
    returned := ← Document.required Document.number? returned
    throughput := ← Document.required Document.number? throughput
    fan := ← Document.required Document.number? fan }

end HomeEnergy.Stove
