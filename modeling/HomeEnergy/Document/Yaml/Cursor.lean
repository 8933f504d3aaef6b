import HomeEnergy.Document

/-!
# Positions in a YAML text

The lexer of YAML needs to know the column it stands in, and whether it is still on the line on
which something began. A cursor is the rest of a text together with that knowledge.

## Main results

* `Cursor.skip`, `Cursor.lineBreak?` — the position behind a character of a line, or a line break.
-/

namespace HomeEnergy.Yaml

/-- The rest of a text and where it starts. -/
structure Cursor where
  rest : List Char
  line : Nat := 0
  column : Nat := 0
  index : Nat := 0
deriving Inhabited

/-- Whether a text may contain a character at all. -/
def isPrintable (c : Char) : Bool :=
  let n := c.toNat
  n = 0x09 || n = 0x0A || n = 0x0D || (0x20 ≤ n && n ≤ 0x7E) || n = 0x85
    || (0xA0 ≤ n && n ≤ 0xFFFD) || 0x10000 ≤ n

/-- A space or a tab. -/
def isBlank (c : Char) : Bool := c = ' ' || c = '\t'

/-- A character that ends a line. -/
def isBreak (c : Char) : Bool :=
  c = '\n' || c = '\r' || c = '\u0085' || c = '\u2028' || c = '\u2029'

/-- A letter or digit of a name, or one of the two signs that join them. -/
def isNameChar (c : Char) : Bool := c.isAlphanum || c = '_' || c = '-'

/-- Whether a text is at an end, a blank or a line break. -/
def atGap (text : List Char) : Bool :=
  match text with
  | [] => true
  | c :: _ => isBlank c || isBreak c

/-- Whether a text is at an end or a line break. -/
def atLineEnd (text : List Char) : Bool :=
  match text with
  | [] => true
  | c :: _ => isBreak c

namespace Cursor

/-- The start of a text. -/
def start (text : List Char) : Cursor := { rest := text }

/-- Step over one character of a line. -/
def skip (c : Cursor) : Cursor :=
  { c with rest := c.rest.tail, column := c.column + 1, index := c.index + 1 }

/-- Step over characters of a line. -/
def skipMany (c : Cursor) : Nat → Cursor
  | 0 => c
  | n + 1 => c.skip.skipMany n

/-- Step over a line break, if the cursor is at one. The break is given as the character that counts
in texts: a line feed for all breaks but the separators of lines and paragraphs. -/
def lineBreak? (c : Cursor) : Option (Char × Cursor) :=
  match c.rest with
  | '\r' :: '\n' :: rest => some ('\n', ⟨rest, c.line + 1, 0, c.index + 2⟩)
  | b :: rest =>
    if isBreak b then
      some (if b = '\u2028' ∨ b = '\u2029' then b else '\n', ⟨rest, c.line + 1, 0, c.index + 1⟩)
    else none
  | [] => none

/-- Whether the cursor is at a marker of a document, which stands alone at the start of a line. -/
def atDocumentMarker (c : Cursor) : Bool :=
  c.column = 0 &&
    match c.rest with
    | a :: b :: d :: rest => a = b && b = d && (a = '-' || a = '.') && atGap rest
    | _ => false

end Cursor

end HomeEnergy.Yaml
