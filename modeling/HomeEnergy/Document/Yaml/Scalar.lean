import HomeEnergy.Document.Yaml.Cursor
import HomeEnergy.Document.Json.Reader

/-!
# Scalars of a YAML text

The texts of plain, quoted and block scalars. Within a plain or quoted scalar a single line break
counts as a space, and of several breaks the first is dropped; a block scalar keeps its lines,
either as they are or folded in the same way.

## Main results

* `plainScalar`, `quotedScalar`, `blockScalar` — the text of a scalar that starts at the cursor, and
  the cursor behind it.
-/

namespace HomeEnergy.Yaml

/-- The gap between two parts of a scalar: blanks on one line, or line breaks. -/
structure Gap where
  /-- Blanks before the first line break. -/
  blanks : List Char := []
  /-- The first line break, if there is one. -/
  first : Option Char := none
  /-- Whether a line has ended within the gap. -/
  broken : Bool := false
  /-- The line breaks after the first. -/
  more : List Char := []

/-- What a gap contributes to the text. -/
def Gap.text (g : Gap) : List Char :=
  if g.broken then
    match g.first with
    | some '\n' => if g.more = [] then [' '] else g.more
    | some b => b :: g.more
    | none => g.more
  else g.blanks

/-- Read blanks and line breaks. Blanks at the start of a line count for nothing; a tab among them
is refused left of `margin`. -/
def readGap (margin : Nat) : Nat → Cursor → Gap → Option (Gap × Cursor)
  | 0, _, _ => none
  | fuel + 1, c, g =>
    match c.rest with
    | [] => some (g, c)
    | a :: _ =>
      if isBlank a then
        if g.broken then
          if a = '\t' ∧ c.column < margin then none else readGap margin fuel c.skip g
        else readGap margin fuel c.skip { g with blanks := g.blanks ++ [a] }
      else
        match c.lineBreak? with
        | none => some (g, c)
        | some (b, d) =>
          if g.broken then readGap margin fuel d { g with more := g.more ++ [b] }
          else readGap margin fuel d { g with blanks := [], first := some b, broken := true }

/-! ## Plain scalars -/

/-- A character that ends a plain scalar inside brackets. -/
def isFlowIndicator (c : Char) : Bool :=
  c = ',' || c = '[' || c = ']' || c = '\x7b' || c = '\x7d'

/-- Read a run of characters of a plain scalar, up to a gap or a character that ends the scalar.
Inside brackets a colon before one of them is refused. -/
def plainRun (inFlow : Bool) : Nat → Cursor → List Char → Option (List Char × Cursor)
  | 0, _, _ => none
  | fuel + 1, c, done =>
    match c.rest with
    | [] => some (done.reverse, c)
    | a :: rest =>
      if isBlank a || isBreak a then some (done.reverse, c)
      else if inFlow && a = ':' && (rest.head?.map fun b => isFlowIndicator b || b = '?').getD false
      then none
      else if a = ':' && atGap rest then some (done.reverse, c)
      else if inFlow && isFlowIndicator a then some (done.reverse, c)
      else plainRun inFlow fuel c.skip (a :: done)

/-- Read a plain scalar onto the text before it. The flag tells whether a line has ended behind the
last character read. -/
def plainWithin (inFlow : Bool) (margin : Nat) :
    Nat → Cursor → List Char → Gap → Option (List Char × Bool × Cursor)
  | 0, _, _, _ => none
  | fuel + 1, c, text, gap =>
    if c.atDocumentMarker ∨ c.rest.head? = some '#' then some (text, gap.broken, c)
    else do
      let (run, d) ← plainRun inFlow (c.rest.length + 1) c []
      let (text, gap) := if run = [] then (text, gap) else (text ++ gap.text ++ run, {})
      if (d.rest.head?.map fun a => isBlank a || isBreak a).getD false then
        let (gap, e) ← readGap margin (d.rest.length + 1) d gap
        if !inFlow ∧ e.column < margin then some (text, gap.broken, e)
        else plainWithin inFlow margin fuel e text gap
      else some (text, gap.broken, d)

/-- The plain scalar at the cursor. Outside of brackets its lines must reach at least the column
`margin`. -/
def plainScalar (inFlow : Bool) (margin : Nat) (c : Cursor) :
    Option (List Char × Bool × Cursor) :=
  plainWithin inFlow margin (c.rest.length + 1) c [] {}

/-! ## Quoted scalars -/

/-- The number that hexadecimal digits write, if all of them are there. -/
def hexNumber? (count : Nat) (text : List Char) : Option Nat :=
  if text.length < count then none
  else (text.take count).foldlM (fun n c => (Json.hexValue? c).map (16 * n + ·)) 0

/-- The character of an escape and the number of characters behind the backslash. -/
def escape? (text : List Char) : Option (Char × Nat) :=
  let numbered (count : Nat) (rest : List Char) : Option (Char × Nat) := do
    let n ← hexNumber? count rest
    if (0xD800 ≤ n ∧ n ≤ 0xDFFF) ∨ 0x10FFFF < n then none
    else some (Char.ofNat n, count + 1)
  match text with
  | [] => none
  | c :: rest =>
    match c with
    | '0' => some ('\x00', 1)
    | 'a' => some ('\x07', 1)
    | 'b' => some ('\x08', 1)
    | 't' => some ('\t', 1)
    | '\t' => some ('\t', 1)
    | 'n' => some ('\n', 1)
    | 'v' => some ('\x0b', 1)
    | 'f' => some ('\x0c', 1)
    | 'r' => some ('\r', 1)
    | 'e' => some ('\x1b', 1)
    | ' ' => some (' ', 1)
    | '"' => some ('"', 1)
    | '/' => some ('/', 1)
    | '\\' => some ('\\', 1)
    | 'N' => some ('\u0085', 1)
    | '_' => some ('\u00a0', 1)
    | 'L' => some ('\u2028', 1)
    | 'P' => some ('\u2029', 1)
    | 'x' => numbered 2 rest
    | 'u' => numbered 4 rest
    | 'U' => numbered 8 rest
    | _ => none

/-- Read a run of characters of a quoted scalar, up to a gap, the closing quote or the end. In the
double-quoted form a backslash at the end of a line joins the lines; the gap tells whether it
did. -/
def quotedRun (double : Bool) : Nat → Cursor → List Char → Option (List Char × Gap × Cursor)
  | 0, _, _ => none
  | fuel + 1, c, done =>
    match c.rest with
    | [] => some (done.reverse, {}, c)
    | a :: rest =>
      if isBlank a || isBreak a then some (done.reverse, {}, c)
      else if !double && a = '\'' then
        if rest.head? = some '\'' then quotedRun double fuel (c.skipMany 2) ('\'' :: done)
        else some (done.reverse, {}, c)
      else if double && a = '"' then some (done.reverse, {}, c)
      else if double && a = '\\' then
        match c.skip.lineBreak? with
        | some (_, d) => some (done.reverse, { broken := true }, d)
        | none => do
          let (e, count) ← escape? rest
          quotedRun double fuel (c.skipMany (count + 1)) (e :: done)
      else quotedRun double fuel c.skip (a :: done)

/-- Read a quoted scalar, from behind its opening quote, onto the text before it. -/
def quotedWithin (double : Bool) : Nat → Cursor → List Char → Option (List Char × Cursor)
  | 0, _, _ => none
  | fuel + 1, c, text =>
    if c.atDocumentMarker then none
    else do
      let (run, gap, d) ← quotedRun double (c.rest.length + 1) c []
      let text := text ++ run
      match d.rest with
      | [] => none
      | a :: _ =>
        if a = (if double then '"' else '\'') ∧ !gap.broken then some (text, d.skip)
        else
          let (gap, e) ← readGap 0 (d.rest.length + 1) d gap
          quotedWithin double fuel e (text ++ gap.text)

/-- The quoted scalar at the cursor, which is at its opening quote. -/
def quotedScalar (double : Bool) (c : Cursor) : Option (List Char × Cursor) :=
  quotedWithin double (c.rest.length + 1) c.skip []

/-! ## Block scalars -/

/-- What happens to the line breaks at the end of a block scalar. -/
inductive Chomping where
  | strip
  | clip
  | keep
deriving DecidableEq, Repr

/-- The signs behind the indicator of a block scalar, in either order: what happens to its end, and
how far its lines are indented. -/
def blockHeader? (c : Cursor) : Option (Chomping × Option Nat × Cursor) :=
  let chomping (c : Cursor) : Option (Chomping × Cursor) :=
    match c.rest.head? with
    | some '+' => some (.keep, c.skip)
    | some '-' => some (.strip, c.skip)
    | _ => none
  let indent (c : Cursor) : Option (Option Nat × Cursor) :=
    match c.rest.head? with
    | some '0' => none
    | some a => if a.isDigit then some (some (a.toNat - '0'.toNat), c.skip) else some (none, c)
    | none => some (none, c)
  match chomping c with
  | some (style, d) => (indent d).map fun (i, e) => (style, i, e)
  | none => do
    let (i, d) ← indent c
    match i, chomping d with
    | some _, some (style, e) => some (style, i, e)
    | _, _ => some (.clip, i, d)

/-- Step over the rest of a line that may hold blanks and a comment. -/
def toLineEnd : Nat → Cursor → Bool → Option Cursor
  | 0, _, _ => none
  | fuel + 1, c, inComment =>
    match c.rest with
    | [] => some c
    | a :: _ =>
      if isBreak a then (c.lineBreak?).map (·.2)
      else if inComment || isBlank a then toLineEnd fuel c.skip inComment
      else if a = '#' then toLineEnd fuel c.skip true
      else none

/-- Read the indentation of lines and the empty lines among them. Without a known indentation the
widest one counts. -/
def blockBreaks (indent : Option Nat) :
    Nat → Cursor → List Char → Nat → Option (List Char × Nat × Cursor)
  | 0, _, _, _ => none
  | fuel + 1, c, breaks, widest =>
    let inside : Bool := (indent.map fun i => decide (c.column < i)).getD true
    let widest' := max widest c.column
    match c.rest with
    | ' ' :: _ =>
      if inside then blockBreaks indent fuel c.skip breaks widest
      else some (breaks, widest', c)
    | '\t' :: _ => if inside then none else some (breaks, widest', c)
    | _ =>
      match c.lineBreak? with
      | some (b, d) => blockBreaks indent fuel d (breaks ++ [b]) widest'
      | none => some (breaks, widest', c)

/-- The characters of the rest of a line. -/
def takeLine : Nat → Cursor → List Char → List Char × Cursor
  | 0, c, done => (done.reverse, c)
  | fuel + 1, c, done =>
    match c.rest with
    | [] => (done.reverse, c)
    | a :: _ => if isBreak a then (done.reverse, c) else takeLine fuel c.skip (a :: done)

/-- Read the lines of a block scalar that start at the column `indent`. `first` and `more` are the
line breaks behind the line before, and `indented` tells whether that line starts with a blank. -/
def blockLines (folded : Bool) (indent : Nat) :
    Nat → Cursor → List Char → Option Char → List Char → Bool →
      Option (List Char × Option Char × List Char × Cursor)
  | 0, _, _, _, _, _ => none
  | fuel + 1, c, text, first, more, indented =>
    if c.column ≠ indent ∨ c.rest = [] then some (text, first, more, c)
    else
      let blank := (c.rest.head?.map isBlank).getD false
      let join : List Char :=
        if folded ∧ first = some '\n' ∧ !indented ∧ !blank then
          if more = [] then [' '] else more
        else first.toList ++ more
      let (line, d) := takeLine (c.rest.length + 1) c []
      let (first, d) := match d.lineBreak? with
        | some (b, e) => (some b, e)
        | none => (none, d)
      match blockBreaks (some indent) (d.rest.length + 1) d [] 0 with
      | none => none
      | some (more, _, e) => blockLines folded indent fuel e (text ++ join ++ line) first more blank

/-- The block scalar at the cursor, which is at its indicator. `parent` is the column of what the
scalar belongs to, or less than zero at the outermost level. -/
def blockScalar (folded : Bool) (parent : Int) (c : Cursor) : Option (List Char × Cursor) := do
  let (chomping, indent, d) ← blockHeader? c.skip
  let d ← toLineEnd (d.rest.length + 1) d false
  let known : Option Nat := indent.map fun i => if 0 ≤ parent then parent.toNat + i else i
  let (breaks, widest, e) ← blockBreaks known (d.rest.length + 1) d [] 0
  let indent := known.getD (max (max widest (parent + 1).toNat) 1)
  let (text, first, more, e) ← blockLines folded indent (e.rest.length + 1) e [] none breaks false
  let text := if chomping = .strip then text else text ++ first.toList
  return (if chomping = .keep then text ++ more else text, e)

end HomeEnergy.Yaml
