import HomeEnergy.Document.Yaml.Scalar

/-!
# Tokens of a YAML text

A YAML text is cut into the tokens that its structure is read from. In block style the structure is
told by columns, so the lexer keeps the columns of the collections that are open and writes their
starts and ends as tokens. That something was a key shows only at the colon behind it; the lexer
remembers where a possible key began and puts the tokens of a key in there afterwards.

## Main results

* `Lexer.openTo`, `Lexer.closeTo` — opening and closing collections by columns.
* `tokens?` — the tokens of a text, or nothing if the text is malformed.
-/

namespace HomeEnergy.Yaml

/-- The ways to write a scalar that are told apart. -/
inductive Style where
  | plain
  | literal
  | other
deriving DecidableEq, Repr

/-- A token. The tokens of block collections stand for columns, not for characters. -/
inductive Token where
  | version (major minor : Nat)
  | tagPrefix (handle start : String)
  | documentStart
  | documentEnd
  | blockListStart
  | blockMapStart
  | blockEnd
  | flowListStart
  | flowListEnd
  | flowMapStart
  | flowMapEnd
  | blockEntry
  | flowEntry
  | key
  | value
  | alias (name : String)
  | anchor (name : String)
  /-- A tag; with an empty handle the suffix is the whole tag. -/
  | tag (handle suffix : String)
  | scalar (style : Style) (text : String)
deriving DecidableEq, Repr, Inhabited

/-- Where something began that a colon may turn into a key. -/
structure PossibleKey where
  /-- Without a colon the text is malformed. -/
  required : Bool
  /-- The place of its first token. -/
  place : Nat
  line : Nat
  column : Nat
  index : Nat

/-- A lexer at work. -/
structure Lexer where
  cursor : Cursor
  tokens : Array Token := #[]
  /-- The column of the innermost block collection, or less than zero outside of all. -/
  indent : Int := -1
  /-- The columns of the collections around it. -/
  indents : List Int := []
  /-- Whether a key may begin at the cursor. -/
  keyAllowed : Bool := true
  /-- The possible key of the innermost collection. -/
  candidate : Option PossibleKey := none
  /-- The possible keys around the open brackets, innermost first. -/
  outer : List (Option PossibleKey) := []

namespace Lexer

/-- Whether the cursor is inside brackets. -/
def inFlow (s : Lexer) : Bool := !s.outer.isEmpty

/-- Append a token. -/
def push (s : Lexer) (t : Token) : Lexer := { s with tokens := s.tokens.push t }

/-- Step over characters and append their token. -/
def pushOver (s : Lexer) (count : Nat) (t : Token) : Lexer :=
  { s with tokens := s.tokens.push t, cursor := s.cursor.skipMany count }

/-- Open a block collection at a column, unless one is open there already; its token goes to a
place among those before. -/
def openTo (s : Lexer) (column place : Nat) (t : Token) : Lexer :=
  if s.inFlow ∨ ¬ s.indent < column then s
  else { s with
    indent := column, indents := s.indent :: s.indents
    tokens := s.tokens.insertIdxIfInBounds place t }

/-- Close the block collections that stand right of a column. -/
def closeWithin (column : Int) : List Int → Int → Array Token → Int × List Int × Array Token
  | [], indent, tokens => (indent, [], tokens)
  | around :: rest, indent, tokens =>
    if column < indent then closeWithin column rest around (tokens.push .blockEnd)
    else (indent, around :: rest, tokens)

/-- Close the block collections that stand right of a column. Inside brackets columns mean
nothing. -/
def closeTo (s : Lexer) (column : Int) : Lexer :=
  if s.inFlow then s
  else
    let (indent, indents, tokens) := closeWithin column s.indents s.indent s.tokens
    { s with indent, indents, tokens }

/-- Give up the possible key of the innermost collection. -/
def dropKey (s : Lexer) : Option Lexer :=
  match s.candidate with
  | some k => if k.required then none else some { s with candidate := none }
  | none => some s

/-- Note that a key may begin at the cursor. -/
def noteKey (s : Lexer) : Option Lexer :=
  if s.keyAllowed then do
    let s ← s.dropKey
    some { s with
      candidate := some {
        required := !s.inFlow && s.indent = s.cursor.column
        place := s.tokens.size
        line := s.cursor.line
        column := s.cursor.column
        index := s.cursor.index } }
  else some s

/-- A key must be on one line with its colon, and shorter than 1024 characters. -/
def PossibleKey.isStale (k : PossibleKey) (c : Cursor) : Bool :=
  k.line < c.line || k.index + 1024 < c.index

/-- A possible key, if it still is one at the cursor; nothing at all if it had to become one. -/
def fresh? (c : Cursor) : Option PossibleKey → Option (Option PossibleKey)
  | none => some none
  | some k => if PossibleKey.isStale k c then if k.required then none else some none
    else some (some k)

/-- Give up the possible keys that the cursor has left behind. -/
def dropStale (s : Lexer) : Option Lexer := do
  let candidate ← fresh? s.cursor s.candidate
  let outer ← s.outer.mapM (fresh? s.cursor)
  return { s with candidate, outer }

/-! ## Between tokens -/

/-- Step over blanks, comments and line breaks. A tab counts as a blank where no key may begin.
Behind a line break a key may begin. -/
def skipGap : Nat → Lexer → Lexer
  | 0, s => s
  | fuel + 1, s =>
    match s.cursor.rest with
    | [] => s
    | a :: _ =>
      if a = ' ' || (a = '\t' && (s.inFlow || !s.keyAllowed)) then
        skipGap fuel { s with cursor := s.cursor.skip }
      else if a = '#' then
        skipGap fuel { s with cursor := (takeLine (s.cursor.rest.length + 1) s.cursor []).2 }
      else
        match s.cursor.lineBreak? with
        | some (_, c) =>
          skipGap fuel { s with cursor := c, keyAllowed := s.keyAllowed || !s.inFlow }
        | none => s

/-! ## Names, tags and directives -/

/-- The name at the cursor. -/
def takeName (c : Cursor) : String × Cursor :=
  let name := c.rest.takeWhile isNameChar
  (String.ofList name, c.skipMany name.length)

/-- A character of a tag. Some stand only where the end of the tag is marked. -/
def isTagChar (marked : Bool) (c : Char) : Bool :=
  isNameChar c
    || c ∈ [';', '/', '?', ':', '@', '&', '=', '+', '$', '.', '!', '~', '*', '\'', '(', ')']
    || (marked && c ∈ [',', '[', ']'])

/-- The bytes of a tag that are written by number after percent signs, as a text. -/
def escapedBytes : Nat → List Char → ByteArray → ByteArray × List Char
  | 0, rest, bytes => (bytes, rest)
  | fuel + 1, rest, bytes =>
    match rest with
    | '%' :: a :: b :: more =>
      match Json.hexValue? a, Json.hexValue? b with
      | some m, some n => escapedBytes fuel more (bytes.push (UInt8.ofNat (16 * m + n)))
      | _, _ => (bytes, rest)
    | _ => (bytes, rest)

/-- The characters of a tag at the cursor. -/
def takeTag (marked : Bool) : Nat → Cursor → List Char → Option (List Char × Cursor)
  | 0, _, _ => none
  | fuel + 1, c, done =>
    match c.rest with
    | [] => some (done, c)
    | a :: _ =>
      if isTagChar marked a then takeTag marked fuel c.skip (done ++ [a])
      else if a = '%' then
        let (bytes, rest) := escapedBytes c.rest.length c.rest .empty
        let count := c.rest.length - rest.length
        if count = 0 then none
        else
          match String.fromUTF8? bytes with
          | some s => takeTag marked fuel (c.skipMany count) (done ++ s.toList)
          | none => none
      else some (done, c)

/-- The handle at the cursor: an exclamation mark, a name, and another mark if there is one. -/
def takeHandle (c : Cursor) : Option (String × Cursor) :=
  match c.rest with
  | '!' :: _ =>
    let (name, d) := takeName c.skip
    if d.rest.head? = some '!' then some ("!" ++ name ++ "!", d.skip) else some ("!" ++ name, d)
  | _ => none

/-- The tag at the cursor. -/
def tag? (s : Lexer) : Option (Token × Cursor) := do
  let c := s.cursor
  let fuel := c.rest.length + 1
  let (token, d) ←
    if c.rest[1]? = some '<' then do
      let (suffix, d) ← takeTag true fuel (c.skipMany 2) []
      if suffix = [] ∨ d.rest.head? ≠ some '>' then none
      else some (Token.tag "" (String.ofList suffix), d.skip)
    else do
      let (handle, d) ← takeHandle c
      if 2 ≤ handle.length ∧ handle.endsWith "!" then
        let (suffix, e) ← takeTag false fuel d []
        if suffix = [] then none else some (Token.tag handle (String.ofList suffix), e)
      else
        let (more, e) ← takeTag false fuel d []
        let suffix := (handle.drop 1).toString ++ String.ofList more
        some (if suffix = "" then Token.tag "" "!" else Token.tag "!" suffix, e)
  if atGap d.rest ∨ (s.inFlow ∧ d.rest.head? = some ',') then some (token, d) else none

/-- The name of an anchor or alias, from behind its sign. -/
def anchorName? (c : Cursor) : Option (String × Cursor) :=
  let (name, d) := takeName c.skip
  let ended := atGap d.rest || d.rest.head?.any (· ∈ ['?', ':', ',', ']', '\x7d', '%', '@', '\x60'])
  if name ≠ "" ∧ ended then some (name, d) else none

/-- Step over blanks. -/
def skipBlanks (c : Cursor) : Cursor := c.skipMany (c.rest.takeWhile isBlank).length

/-- A whole number of at most nine digits at the cursor. -/
def takeNumber (c : Cursor) : Option (Nat × Cursor) :=
  let (digits, rest) := takeDigits c.rest
  if digits = [] ∨ 9 < digits.length then none
  else some (Decimal.value digits, c.skipMany (c.rest.length - rest.length))

/-- The directive at the cursor, which is at its percent sign. -/
def directive? (c : Cursor) : Option (Token × Cursor) := do
  let (name, d) := takeName c.skip
  if ¬ atGap d.rest then none
  else
    let (token, d) ←
      if name = "YAML" then do
        let (major, d) ← takeNumber (skipBlanks d)
        if d.rest.head? ≠ some '.' then none
        else
          let (minor, d) ← takeNumber d.skip
          some (Token.version major minor, d)
      else if name = "TAG" then do
        let (handle, d) ← takeHandle (skipBlanks d)
        if ¬ handle.endsWith "!" ∨ ¬ d.rest.head?.any isBlank then none
        else
          let d := skipBlanks d
          let (start, d) ← takeTag true (d.rest.length + 1) d []
          if start = [] ∨ ¬ atGap d.rest then none
          else some (Token.tagPrefix handle (String.ofList start), d)
      else none
    return (token, ← toLineEnd (d.rest.length + 1) d false)

/-! ## Tokens -/

/-- Whether a plain scalar may start with these characters. -/
def startsPlain (inFlow : Bool) : List Char → Bool
  | [] => false
  | c :: rest =>
    if c = '-' then !(rest.head?.any isBlank)
    else if c = '?' || c = ':' then !inFlow && !atGap rest
    else !(isBlank c || isBreak c || isFlowIndicator c
      || c ∈ ['#', '&', '*', '!', '|', '>', '\'', '"', '%', '@', '\x60'])

/-- Begin or end something that takes the place of any possible key. -/
def plainly (s : Lexer) (keyAllowed : Bool) (count : Nat) (t : Token) : Option Lexer := do
  let s ← s.dropKey
  return { s with keyAllowed }.pushOver count t

/-- Something that may be a key, read from the cursor on. -/
def keyed (s : Lexer) (read : Option (Token × Cursor)) : Option Lexer := do
  let s ← s.noteKey
  let (token, cursor) ← read
  return { s with keyAllowed := false, cursor }.push token

/-- An opening bracket. -/
def bracket (s : Lexer) (t : Token) : Option Lexer := do
  let s ← s.noteKey
  return { s with
    keyAllowed := true, candidate := none, outer := s.candidate :: s.outer }.pushOver 1 t

/-- A closing bracket. -/
def unbracket (s : Lexer) (t : Token) : Option Lexer := do
  let s ← s.dropKey
  let s := match s.outer with
    | [] => s
    | candidate :: outer => { s with candidate, outer }
  return { s with keyAllowed := false }.pushOver 1 t

/-- The dash of a list entry or the question mark of a key. -/
def indicator (s : Lexer) (opening t : Token) (keyAllowed : Bool) : Option Lexer :=
  if s.inFlow then s.plainly keyAllowed 1 t
  else if s.keyAllowed then
    (s.openTo s.cursor.column s.tokens.size opening).plainly keyAllowed 1 t
  else none

/-- The colon between a key and its value. -/
def colon (s : Lexer) : Option Lexer :=
  match s.candidate with
  | some k =>
    let s := { s with tokens := s.tokens.insertIdxIfInBounds k.place .key }
    let s := s.openTo k.column k.place .blockMapStart
    some ({ s with candidate := none, keyAllowed := false }.pushOver 1 .value)
  | none =>
    if s.inFlow then some ({ s with keyAllowed := false }.pushOver 1 .value)
    else if s.keyAllowed then
      let s := s.openTo s.cursor.column s.tokens.size .blockMapStart
      some ({ s with keyAllowed := true }.pushOver 1 .value)
    else none

/-- A scalar of the style with its own lines. -/
def block (s : Lexer) (folded : Bool) : Option Lexer := do
  let s ← s.dropKey
  let (text, cursor) ← blockScalar folded s.indent s.cursor
  return { s with keyAllowed := true, cursor }.push
    (.scalar (if folded then .other else .literal) (String.ofList text))

/-- A plain scalar. -/
def plain (s : Lexer) : Option Lexer := do
  let s ← s.noteKey
  let (text, broken, cursor) ← plainScalar s.inFlow (s.indent + 1).toNat s.cursor
  return { s with keyAllowed := broken, cursor }.push (.scalar .plain (String.ofList text))

/-- A quoted scalar. -/
def quoted (s : Lexer) (double : Bool) : Option Lexer :=
  s.keyed ((quotedScalar double s.cursor).map fun (text, c) =>
    (.scalar .other (String.ofList text), c))

/-- Read what stands at the cursor, which is not at an end, a blank or a line break. -/
def step (s : Lexer) : Option Lexer :=
  let c := s.cursor
  if c.column = 0 ∧ c.rest.head? = some '%' then do
    let s ← (s.closeTo (-1)).dropKey
    let (token, cursor) ← directive? c
    return { s with keyAllowed := false, cursor }.push token
  else if c.atDocumentMarker then
    (s.closeTo (-1)).plainly false 3
      (if c.rest.head? = some '-' then .documentStart else .documentEnd)
  else
    let rest := c.rest.tail
    match c.rest.head? with
    | some '[' => s.bracket .flowListStart
    | some '\x7b' => s.bracket .flowMapStart
    | some ']' => s.unbracket .flowListEnd
    | some '\x7d' => s.unbracket .flowMapEnd
    | some ',' => s.plainly true 1 .flowEntry
    | some '*' => s.keyed ((anchorName? c).map fun (name, d) => (.alias name, d))
    | some '&' => s.keyed ((anchorName? c).map fun (name, d) => (.anchor name, d))
    | some '!' => s.keyed s.tag?
    | some '\'' => s.quoted false
    | some '"' => s.quoted true
    | some a =>
      if a = '-' ∧ atGap rest then s.indicator .blockListStart .blockEntry true
      else if a = '?' ∧ (s.inFlow ∨ atGap rest) then s.indicator .blockMapStart .key !s.inFlow
      else if a = ':' ∧ (s.inFlow ∨ atGap rest) then s.colon
      else if (a = '|' ∨ a = '>') ∧ !s.inFlow then s.block (a = '>')
      else if startsPlain s.inFlow c.rest then s.plain
      else none
    | none => none

/-- Read to the end of the text. Each step takes at least one character, so the length of the text
bounds the steps. -/
def run : Nat → Lexer → Option (Array Token)
  | 0, _ => none
  | fuel + 1, s => do
    let s ← (skipGap (s.cursor.rest.length + 1) s).dropStale
    let s := s.closeTo s.cursor.column
    if s.cursor.rest = [] then
      let s ← (s.closeTo (-1)).dropKey
      return s.tokens
    else run fuel (← s.step)

end Lexer

/-- The tokens of a text. A mark of the byte order at its start is no part of it. -/
def tokens? (text : String) : Option (List Token) :=
  let chars := text.toList
  let chars := if chars.head? = some '\ufeff' then chars.tail else chars
  if chars.all isPrintable then
    let chars := if chars.head? = some '\ufeff' then chars.tail else chars
    (Lexer.run (chars.length + 1) { cursor := Cursor.start chars }).map Array.toList
  else none

end HomeEnergy.Yaml
