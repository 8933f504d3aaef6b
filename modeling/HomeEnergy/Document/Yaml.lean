import HomeEnergy.Document.Yaml.Node

/-!
# Documents from YAML text

What the nodes of a YAML text mean: a plain scalar that looks like a number, a truth value or
nothing is one, and every other scalar is a text, unless a tag says otherwise. The keys of maps are
texts whatever they look like.

## Main results

* `Yaml.meaning` — what a plain scalar stands for.
* `Yaml.readMap` — the map that a text of settings writes.
* `Yaml.readNatural` — the number that a text writes.
-/

namespace HomeEnergy.Yaml

/-! ## Plain scalars -/

/-- The words for nothing. -/
def isNull (text : String) : Bool := text ∈ ["null", "Null", "NULL", "~"]

/-- The words for truth values. -/
def truth? (text : String) : Option Bool :=
  if text ∈ ["true", "True", "TRUE"] then some true
  else if text ∈ ["false", "False", "FALSE"] then some false
  else none

/-- The value of digits of a base up to sixteen, if there are digits and nothing else. -/
def digits? (base : Nat) (text : List Char) : Option Nat :=
  if text = [] then none
  else text.foldlM (fun n c => do
    let d ← Json.hexValue? c
    if d < base then some (base * n + d) else none) 0

/-- Digits with a needless zero in front, which is not how numbers are written. -/
def isPadded (text : List Char) : Bool :=
  match (takeSign text).2 with
  | '0' :: rest => !rest.isEmpty && rest.all Char.isDigit
  | _ => false

/-- The magnitude of a whole number without a sign: digits of base ten, or of another base behind
its mark. -/
def magnitude? : List Char → Option Nat
  | '0' :: 'x' :: rest => digits? 16 rest
  | '0' :: 'o' :: rest => digits? 8 rest
  | '0' :: 'b' :: rest => digits? 2 rest
  | text => if isPadded text then none else digits? 10 text

/-- The whole number of at most 128 bits that a text writes. -/
def whole? (text : List Char) : Option Int :=
  match text with
  | '-' :: rest => do
    let n ← magnitude? rest
    if n ≤ Nat.pow 2 127 then some (-(n : Int)) else none
  | '+' :: rest | rest => do
    let n ← magnitude? rest
    if n < Nat.pow 2 128 then some (n : Int) else none

/-- The floating-point number that a text writes. -/
def float? (text : List Char) : Option Float :=
  let body := match text with
    | '+' :: rest => rest
    | _ => text
  if body ≠ text ∧ (body.head? = some '+' ∨ body.head? = some '-') then none
  else
    let word := String.ofList text
    if String.ofList body ∈ [".inf", ".Inf", ".INF"] then some (1.0 / 0.0)
    else if word ∈ ["-.inf", "-.Inf", "-.INF"] then some (-(1.0 / 0.0))
    else if word ∈ [".nan", ".NaN", ".NAN"] then some (0.0 / 0.0)
    else
      match readFloat body with
      | .ok x => if x.isFinite then some x else none
      | .error _ => none

/-- What a plain scalar stands for. -/
def meaning (text : String) : Document :=
  if text = "" ∨ isNull text then .null
  else
    match truth? text with
    | some b => .bool b
    | none =>
      match whole? text.toList with
      | some n => .int n
      | none =>
        if isPadded text.toList then .text text
        else
          match float? text.toList with
          | some x => .float x
          | none => .text text

/-! ## Nodes -/

/-- The namespace of the tags for common types. -/
def commonTag (name : String) : String := "tag:yaml.org,2002:" ++ name

/-- A tag of a type of its own; data with one have no meaning here. -/
def isOwnTag (tag : Option String) : Bool := tag.any (·.startsWith "!")

/-- What a scalar with a tag stands for. -/
def tagged (tag text : String) : Option Document :=
  if tag = commonTag "bool" then (truth? text).map .bool
  else if tag = commonTag "int" then (whole? text.toList).map .int
  else if tag = commonTag "float" then (float? text.toList).map .float
  else if tag = commonTag "null" then if isNull text then some .null else none
  else some (.text text)

/-- The text of a key. -/
def keyText? : Node → Option String
  | .scalar _ _ text => some text
  | _ => none

mutual

/-- The document that a node stands for. -/
def document? : Node → Option Document
  | .scalar style tag text =>
    if isOwnTag tag then none
    else
      match tag with
      | some t => tagged t text
      | none => some (if style = .plain then meaning text else .text text)
  | .list tag items => if isOwnTag tag then none else (itemDocuments? items).map .list
  | .map tag members => if isOwnTag tag then none else (memberDocuments? members).map .map

/-- The documents that items stand for. -/
def itemDocuments? : List Node → Option (List Document)
  | [] => some []
  | n :: rest => do
    let d ← document? n
    return d :: (← itemDocuments? rest)

/-- The members that pairs of nodes stand for. -/
def memberDocuments? : List (Node × Node) → Option (List (String × Document))
  | [] => some []
  | (k, v) :: rest => do
    let key ← keyText? k
    let d ← document? v
    return (key, d) :: (← memberDocuments? rest)

end

/-! ## Texts -/

/-- Lists and maps may be nested this deep. -/
def depthLimit : Nat := 128

/-- The members of the map that a text writes; nothing written is the empty map. -/
def readMembers (text : String) : Option (List (String × Document)) := do
  match ← Node.ofText? text with
  | none => some []
  | some n =>
    if depthLimit < n.depth then none
    else
      match n with
      | .map _ members => memberDocuments? members
      | .scalar .plain _ "" => some []
      | _ => none

/-- The map that a text of settings writes, in normal form. -/
def readMap (text : String) : Option Document :=
  (readMembers text).map fun members => (Document.map members).sorted

/-- The unsigned whole number of `bits` bits that a text writes. -/
def readNatural (bits : Nat) (text : String) : Option Nat := do
  let some (.scalar style tag text) ← Node.ofText? text | none
  if style = .plain ∨ (style = .literal ∧ tag = some (commonTag "int")) then
    match text.toList with
    | '-' :: _ => none
    | chars => ((whole? chars).map Document.int).bind (Document.natural? bits)
  else none

end HomeEnergy.Yaml
