import HomeEnergy.Document.Json
import HomeEnergy.Decimal.Numeral
import HomeEnergy.Text.Blank

/-!
# Reading JSON text

A text is cut into tokens, and the tokens are put together on a stack of open lists and maps. Both
passes go through their input once, from left to right. The members of a map keep their order and
their repetitions; whoever wants the normal form sorts the result.

## Main results

* `Json.tokens` — the tokens of a text, if all of it consists of tokens and blanks.
* `Json.build` — the document of a token sequence.
* `Json.read`, `Json.readExact` — the document of a text, with the scaled and with the exact reading
  of numerals.
-/

namespace HomeEnergy.Json

/-- A token of JSON text. A numeral that is a whole number in range is an integer already. -/
inductive Token where
  | openList
  | closeList
  | openMap
  | closeMap
  | comma
  | colon
  | word (s : String)
  | scalar (d : Document)

/-! ## Strings -/

/-- The value of a hexadecimal digit of either case. -/
def hexValue? (c : Char) : Option Nat :=
  if c.isDigit then some (c.toNat - '0'.toNat)
  else if 'a' ≤ c ∧ c ≤ 'f' then some (c.toNat - 'a'.toNat + 10)
  else if 'A' ≤ c ∧ c ≤ 'F' then some (c.toNat - 'A'.toNat + 10)
  else none

/-- The number that four hexadecimal digits at the start of a text write. -/
def fourHex? : List Char → Option (Nat × List Char)
  | a :: b :: c :: d :: rest => do
    let a ← hexValue? a
    let b ← hexValue? b
    let c ← hexValue? c
    let d ← hexValue? d
    return (((a * 16 + b) * 16 + c) * 16 + d, rest)
  | _ => none

/-- The character that a single-letter escape stands for. -/
def simpleEscape? : Char → Option Char
  | '"' => some '"'
  | '\\' => some '\\'
  | '/' => some '/'
  | 'b' => some '\x08'
  | 'f' => some '\x0c'
  | 'n' => some '\n'
  | 'r' => some '\r'
  | 't' => some '\t'
  | _ => none

/-- The character written by number after a backslash and a letter u. A number of the first half of
a pair must be followed by an escape for the second half. -/
def numberedEscape? (text : List Char) : Option (Char × List Char) := do
  let (n, rest) ← fourHex? text
  if 0xD800 ≤ n ∧ n ≤ 0xDBFF then
    match rest with
    | '\\' :: 'u' :: more =>
      let (m, rest) ← fourHex? more
      if 0xDC00 ≤ m ∧ m ≤ 0xDFFF then
        some (Char.ofNat (0x10000 + (n - 0xD800) * 0x400 + (m - 0xDC00)), rest)
      else none
    | _ => none
  else if 0xDC00 ≤ n ∧ n ≤ 0xDFFF then none
  else some (Char.ofNat n, rest)

/-- The characters of a string, from behind its opening quote to its closing one, and the text
behind that. -/
def stringBody : Nat → List Char → Option (List Char × List Char)
  | 0, _ => none
  | _ + 1, [] => none
  | fuel + 1, c :: rest =>
    if c = '"' then some ([], rest)
    else if c = '\\' then
      match rest with
      | [] => none
      | e :: more => do
        let (d, rest) ← if e = 'u' then numberedEscape? more
          else (simpleEscape? e).map (·, more)
        let (body, rest) ← stringBody fuel rest
        return (d :: body, rest)
    else if c.toNat < 32 then none
    else do
      let (body, rest) ← stringBody fuel rest
      return (c :: body, rest)

/-! ## Numerals -/

/-- The numeral at the start of a text: no needless zero in front, and at least one digit in each
part that is written. The flag tells whether it has neither point nor exponent. -/
def numeral (text : List Char) : Option (Numeral × Bool × List Char) := do
  let (negative, text) := match text with
    | '-' :: rest => (true, rest)
    | _ => (false, text)
  let (whole, rest) := takeDigits text
  if whole = [] ∨ (whole.head? = some '0' ∧ whole ≠ ['0']) then none
  else
    let (fraction, pointed, rest) := match rest with
      | '.' :: more => ((takeDigits more).1, true, (takeDigits more).2)
      | _ => ([], false, rest)
    if pointed ∧ fraction = [] then none
    else
      match rest with
      | e :: more =>
        if e = 'e' ∨ e = 'E' then
          let (minus, more) := takeSign more
          let (digits, rest) := takeDigits more
          if digits = [] then none
          else
            let n : Int := Decimal.value digits
            some (⟨negative, whole, fraction, if minus then -n else n⟩, false, rest)
        else some (⟨negative, whole, fraction, 0⟩, !pointed, rest)
      | [] => some (⟨negative, whole, fraction, 0⟩, !pointed, rest)

/-- The value of a numeral: an integer if it is written as one and fits into 64 bits, with or
without sign, and a double otherwise. A negative zero is a double. -/
def numberOf (reading : Numeral → Option Float) (n : Numeral) (plain : Bool) : Option Document :=
  let value := Decimal.value n.whole
  if plain ∧ ¬ n.negative ∧ value < Numeral.wordLimit then some (.int value)
  else if plain ∧ n.negative ∧ 0 < value ∧ value ≤ Numeral.wordLimit / 2 then
    some (.int (-(value : Int)))
  else (reading n).map .float

/-! ## Tokens -/

/-- The blanks of JSON text. -/
def isSpace (c : Char) : Bool := c = ' ' || c = '\t' || c = '\n' || c = '\r'

/-- The token at the start of a text that does not start with a blank. -/
def token (reading : Numeral → Option Float) (text : List Char) : Option (Token × List Char) :=
  match text with
  | [] => none
  | c :: rest =>
    if c = '[' then some (.openList, rest)
    else if c = ']' then some (.closeList, rest)
    else if c = '\x7b' then some (.openMap, rest)
    else if c = '\x7d' then some (.closeMap, rest)
    else if c = ',' then some (.comma, rest)
    else if c = ':' then some (.colon, rest)
    else if c = '"' then
      (stringBody (rest.length + 1) rest).map fun (body, rest) => (.word (String.ofList body), rest)
    else if c = 'n' then (Text.after? "ull".toList rest).map (.scalar .null, ·)
    else if c = 't' then (Text.after? "rue".toList rest).map (.scalar (.bool true), ·)
    else if c = 'f' then (Text.after? "alse".toList rest).map (.scalar (.bool false), ·)
    else do
      let (n, plain, rest) ← numeral text
      let d ← numberOf reading n plain
      return (.scalar d, rest)

/-- The tokens of a text. Each step takes at least one character, so the length bounds the steps. -/
def tokensWithin (reading : Numeral → Option Float) : Nat → List Char → Option (List Token)
  | 0, _ => none
  | _ + 1, [] => some []
  | fuel + 1, c :: rest =>
    if isSpace c then tokensWithin reading fuel rest
    else do
      let (t, rest) ← token reading (c :: rest)
      let more ← tokensWithin reading fuel rest
      return t :: more

/-- The tokens of a text, if all of it consists of tokens and blanks. -/
def tokens (reading : Numeral → Option Float) (text : List Char) : Option (List Token) :=
  tokensWithin reading (text.length + 1) text

/-! ## Documents -/

/-- A list or map that is still open, with what it holds so far, latest first. A map also holds the
key whose value comes next. -/
inductive Frame where
  | items (done : List Document)
  | members (done : List (String × Document)) (key : String)

/-- What may come next. -/
inductive Expecting where
  /-- A value. -/
  | value
  /-- A value, or the end of the list that was just opened. -/
  | firstItem
  /-- A key, or the end of the map that was just opened. -/
  | firstKey
  /-- A key; the members before it are on hand. -/
  | key (done : List (String × Document))
  /-- A colon after a key. -/
  | colon (done : List (String × Document)) (key : String)
  /-- The end of the value, or a comma and more of what is open around it. -/
  | after (d : Document)

/-- Lists and maps may be nested less deep than this. -/
def depthLimit : Nat := 128

/-- Open one more list or map, unless too many are open. -/
def deeper (stack : List Frame) : Bool := stack.length + 1 < depthLimit

/-- One token, given the open lists and maps, innermost first. -/
def step (stack : List Frame) (expecting : Expecting) (t : Token) :
    Option (List Frame × Expecting) :=
  match expecting, t with
  | .value, t | .firstItem, t =>
    match t, expecting, stack with
    | .closeList, .firstItem, .items [] :: rest => some (rest, .after (.list []))
    | .word s, _, _ => some (stack, .after (.text s))
    | .scalar d, _, _ => some (stack, .after d)
    | .openList, _, _ => if deeper stack then some (.items [] :: stack, .firstItem) else none
    | .openMap, _, _ =>
      if deeper stack then some (.members [] "" :: stack, .firstKey) else none
    | _, _, _ => none
  | .firstKey, .closeMap =>
    match stack with
    | _ :: rest => some (rest, .after (.map []))
    | [] => none
  | .firstKey, .word s => some (stack.tail, .colon [] s)
  | .key done, .word s => some (stack, .colon done s)
  | .colon done key, .colon => some (.members done key :: stack, .value)
  | .after d, .comma =>
    match stack with
    | .items done :: rest => some (.items (d :: done) :: rest, .value)
    | .members done key :: rest => some (rest, .key ((key, d) :: done))
    | [] => none
  | .after d, .closeList =>
    match stack with
    | .items done :: rest => some (rest, .after (.list (d :: done).reverse))
    | _ => none
  | .after d, .closeMap =>
    match stack with
    | .members done key :: rest => some (rest, .after (.map ((key, d) :: done).reverse))
    | _ => none
  | _, _ => none

/-- Run through the tokens; at the end one value must stand complete. -/
def build : List Frame → Expecting → List Token → Option Document
  | [], .after d, [] => some d
  | _, _, [] => none
  | stack, expecting, t :: rest => do
    let (stack, expecting) ← step stack expecting t
    build stack expecting rest

/-- The document of a JSON text under a reading of numerals. -/
def readWith (reading : Numeral → Option Float) (text : List Char) : Option Document := do
  build [] .value (← tokens reading text)

/-- The document of a JSON text. -/
def read (text : String) : Option Document := readWith Numeral.scaled text.toList

/-- The document of a JSON text whose numerals are taken at their exact value. -/
def readExact (text : String) : Option Document := readWith (fun n => some n.exact) text.toList

/-- The document of JSON text in bytes; they must be valid UTF-8. -/
def readBytes (bytes : ByteArray) : Option Document := do read (← String.fromUTF8? bytes)

end HomeEnergy.Json
