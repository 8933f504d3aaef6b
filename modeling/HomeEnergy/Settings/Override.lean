import HomeEnergy.Decimal.Numeral
import HomeEnergy.Document
import HomeEnergy.Document.Json.Reader
import HomeEnergy.Text.Blank

/-!
# Overriding settings from the environment

An environment variable whose name starts with the prefix of the service overrides one setting. The
rest of its name is the path to the setting, with two underscores between the keys; letter case does
not matter. Its value is written in a small notation: truth values, numbers, quoted texts, lists in
brackets, maps in braces, and anything else as a plain text.

## Main results

* `Override.value` — the document that the value of a variable writes.
* `Override.documentOf` — the document of all overriding variables.
* `Document.overlaid` — a document with the members of another put over its own.
-/

namespace HomeEnergy

namespace Override

/-! ## Values -/

/-- The blanks that count as such around values. -/
def isGap (c : Char) : Bool := c = ' ' || c = '\t' || c = '\n' || c = '\x0c' || c = '\r'

/-- The text behind its leading blanks. -/
def skipGap (text : List Char) : List Char := text.dropWhile isGap

/-- A character that ends a plain value. -/
def isSeparator (c : Char) : Bool :=
  c = ',' || c = '\x7b' || c = '\x7d' || c = '[' || c = ']'

/-- A character of a key. -/
def isKeyChar (c : Char) : Bool := c.isAlphanum || c = '_' || c = '-'

/-- The number that a fixed count of hexadecimal digits writes, and the text behind them. -/
def hexDigits? : Nat → Nat → List Char → Option (Nat × List Char)
  | 0, n, rest => some (n, rest)
  | _ + 1, _, [] => none
  | count + 1, n, c :: rest => do hexDigits? count (16 * n + (← Json.hexValue? c)) rest

/-- The text of a quoted value, from behind its opening quote, and the text behind its closing
one. -/
def quotedBody : Nat → List Char → Option (List Char × List Char)
  | 0, _ => none
  | _ + 1, [] => none
  | fuel + 1, c :: rest =>
    if c = '"' then some ([], rest)
    else do
      let (d, rest) ←
        if c = '\\' then
          match rest with
          | [] => none
          | e :: more =>
            let numbered (count : Nat) : Option (Char × List Char) := do
              let (n, more) ← hexDigits? count 0 more
              if n.isValidChar then some (Char.ofNat n, more) else none
            match e with
            | '"' => some ('"', more)
            | '\\' => some ('\\', more)
            | 'b' => some ('\x08', more)
            | 'f' => some ('\x0c', more)
            | 'n' => some ('\n', more)
            | 'r' => some ('\r', more)
            | 't' => some ('\t', more)
            | 'u' => numbered 4
            | 'U' => numbered 8
            | _ => none
        else if (c.toNat < 32 ∧ c ≠ '\t') ∨ c.toNat = 127 then none
        else some (c, rest)
      let (body, rest) ← quotedBody fuel rest
      return (d :: body, rest)

/-- A quoted text. -/
def quoted? (text : List Char) : Option (String × List Char) :=
  match text with
  | '"' :: rest =>
    (quotedBody (rest.length + 1) rest).map fun (body, rest) => (String.ofList body, rest)
  | _ => none

/-- What a plain value stands for: a number with a point, a whole number of 64 bits with or without
sign, or a text. -/
def plain (text : List Char) : Document :=
  let pointed : Option Document :=
    if text.contains '.' then
      match readFloat text with
      | .ok x => some (.float x)
      | .error _ => none
    else none
  let natural : Option Document :=
    match text with
    | '-' :: _ => none
    | _ =>
      match readInteger 65 text with
      | .ok n => some (.int n)
      | .error _ => none
  let negative : Option Document :=
    match readInteger 64 text with
    | .ok n => some (.int n)
    | .error _ => none
  (pointed.or (natural.or negative)).getD (.text (String.ofList text))

mutual

/-- The value at the start of a text, and the text behind it and the blanks that follow. -/
def value? : Nat → List Char → Option (Document × List Char)
  | 0, _ => none
  | fuel + 1, text =>
    let text := skipGap text
    let read : Option (Document × List Char) :=
      match Text.after? "true".toList text, Text.after? "false".toList text with
      | some rest, _ => some (.bool true, rest)
      | none, some rest => some (.bool false, rest)
      | none, none =>
        match text with
        | '\x7b' :: rest => (members? fuel rest).map fun (ms, rest) => (.map ms, rest)
        | '[' :: rest => (items? fuel rest).map fun (ds, rest) => (.list ds, rest)
        | '"' :: _ => (quoted? text).map fun (s, rest) => (.text s, rest)
        | '\'' :: rest =>
          match rest with
          | c :: '\'' :: rest => some (.text c.toString, rest)
          | _ => none
        | _ =>
          let (word, rest) := (text.takeWhile (!isSeparator ·), text.dropWhile (!isSeparator ·))
          some (plain (Text.trim word), rest)
    read.map fun (d, rest) => (d, skipGap rest)

/-- Items up to a closing bracket. -/
def items? : Nat → List Char → Option (List Document × List Char)
  | 0, _ => none
  | fuel + 1, text =>
    match text with
    | ']' :: rest => some ([], rest)
    | _ => do
      let (d, rest) ← value? fuel text
      match rest with
      | ',' :: rest => do
        let (ds, rest) ← items? fuel rest
        return (d :: ds, rest)
      | ']' :: rest => some ([d], rest)
      | _ => none

/-- Members up to a closing brace. -/
def members? : Nat → List Char → Option (List (String × Document) × List Char)
  | 0, _ => none
  | fuel + 1, text =>
    match text with
    | '\x7d' :: rest => some ([], rest)
    | _ => do
      let text := skipGap text
      let (key, rest) ←
        match text with
        | '"' :: _ => quoted? text
        | _ =>
          let key := text.takeWhile isKeyChar
          if key = [] then none else some (String.ofList key, text.dropWhile isKeyChar)
      match skipGap rest with
      | '=' :: rest => do
        let (d, rest) ← value? fuel rest
        match rest with
        | ',' :: rest => do
          let (ms, rest) ← members? fuel rest
          return ((key, d) :: ms, rest)
        | '\x7d' :: rest => some ([(key, d)], rest)
        | _ => none
      | _ => none

end

/-- The document that the value of a variable writes. A value that breaks the notation is a text as
it stands. -/
def value (text : String) : Document :=
  match value? (2 * text.length + 2) text.toList with
  | some (d, []) => d
  | _ => .text text

/-! ## Names -/

/-- The parts of a text between underscores in pairs and points. -/
def parts : List Char → List (List Char)
  | [] => [[]]
  | '_' :: '_' :: rest => [] :: parts rest
  | '.' :: rest => [] :: parts rest
  | c :: rest =>
    match parts rest with
    | [] => [[c]]
    | p :: ps => (c :: p) :: ps

/-- The path that the name of a variable gives, if it starts with the prefix and no key on the path
is empty. -/
def path? (start name : String) : Option (List String) := do
  let rest ← Text.after? (Text.lowered start.toList) (Text.lowered (Text.trim name.toList))
  let keys := parts (Text.trim rest)
  if keys.any List.isEmpty then none else some (keys.map String.ofList)

/-- A document in which a path leads to another. -/
def nested : List String → Document → Document
  | [], d => d
  | key :: path, d => .map [(key, nested path d)]

end Override

namespace Document

mutual

/-- A document with another put over it: maps are joined member by member, and anything else gives
way. -/
def overlaid (below : Document) : Document → Document
  | map members =>
    match below with
    | map before => map (overlaidMembers before members)
    | _ => map members
  | d => d

/-- Members put over others. -/
def overlaidMembers (below : List (String × Document)) :
    List (String × Document) → List (String × Document)
  | [] => below
  | (key, d) :: rest =>
    let merged := match member? key below with
      | some e => overlaid e d
      | none => d
    overlaidMembers (insertMember key merged below) rest

end

end Document

/-- The document of all variables that override settings, in the order in which they are given. -/
def Override.documentOf (start : String) (given : List (String × String)) : Document :=
  given.foldl (fun d (name, text) =>
    match path? start name with
    | some path => d.overlaid (nested path (value text)).sorted
    | none => d) (.map [])

end HomeEnergy
