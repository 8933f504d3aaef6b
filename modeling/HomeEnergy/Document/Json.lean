import HomeEnergy.Document
import HomeEnergy.Decimal.Shortest

/-!
# Documents as JSON text

The compact writing of a document: no space between tokens, members in the order of the document,
doubles with the fewest digits that read back. A double that is infinite or undefined has no JSON
text and is written as the null.

## Main results

* `Json.write` — the text of a document.
* `Json.escape_length_pos` — every character is written by at least one character.
-/

namespace HomeEnergy.Json

/-- One of the sixteen lower-case hexadecimal digits. -/
def hexDigit (n : Nat) : Char := Nat.digitChar n

/-- How one character stands inside a JSON string: the quote, the backslash and the controls are
escaped, everything else stands for itself. -/
def escape (c : Char) : List Char :=
  match c with
  | '"' => ['\\', '"']
  | '\\' => ['\\', '\\']
  | '\x08' => ['\\', 'b']
  | '\x0c' => ['\\', 'f']
  | '\n' => ['\\', 'n']
  | '\r' => ['\\', 'r']
  | '\t' => ['\\', 't']
  | c =>
    if c.toNat < 32 then ['\\', 'u', '0', '0', hexDigit (c.toNat / 16), hexDigit (c.toNat % 16)]
    else [c]

theorem escape_length_pos (c : Char) : 0 < (escape c).length := by
  unfold escape
  split <;> try decide
  split <;> simp

/-- A string between quotes. -/
def writeString (s : String) : List Char := '"' :: s.toList.flatMap escape ++ ['"']

/-- A double: its shortest text, or the null when it is not finite. -/
def writeFloat (x : Float) : List Char :=
  if x.isFinite then Shortest.render x else "null".toList

mutual

/-- The characters of a document. -/
def write : Document → List Char
  | .null => "null".toList
  | .bool true => "true".toList
  | .bool false => "false".toList
  | .int n => (toString n).toList
  | .float x => writeFloat x
  | .text s => writeString s
  | .list items => '[' :: writeItems items ++ [']']
  | .map members => '\x7b' :: writeMembers members ++ ['\x7d']

/-- Items, separated by commas. -/
def writeItems : List Document → List Char
  | [] => []
  | [d] => write d
  | d :: rest => write d ++ ',' :: writeItems rest

/-- Members, separated by commas, each a key and a value with a colon between them. -/
def writeMembers : List (String × Document) → List Char
  | [] => []
  | [(key, d)] => writeString key ++ ':' :: write d
  | (key, d) :: rest => writeString key ++ ':' :: write d ++ ',' :: writeMembers rest

end

/-- The compact JSON text of a document. -/
def text (d : Document) : String := String.ofList (write d)

/-- The compact JSON text in bytes. -/
def bytes (d : Document) : ByteArray := (text d).toUTF8

end HomeEnergy.Json
