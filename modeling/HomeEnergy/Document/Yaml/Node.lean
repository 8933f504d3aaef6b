import HomeEnergy.Document.Yaml.Token

/-!
# Nodes of a YAML text

The tokens of a text are put together to a tree of scalars, lists and maps. An alias stands for a
copy of the node with its anchor; that node must be complete. So many copies of copies that they
would outgrow the text a hundredfold are refused.

## Main results

* `Node.ofTokens?` — the only document of a token sequence.
* `Node.depth` — how deep lists and maps are nested.
-/

namespace HomeEnergy.Yaml

/-- A node. A tag is given in full. -/
inductive Node where
  | scalar (style : Style) (tag : Option String) (text : String)
  | list (tag : Option String) (items : List Node)
  | map (tag : Option String) (members : List (Node × Node))
deriving Inhabited

namespace Node

mutual

/-- How deep lists and maps are nested; zero for a scalar. -/
def depth : Node → Nat
  | scalar .. => 0
  | list _ items => itemDepth items + 1
  | map _ members => memberDepth members + 1

/-- The depth of the deepest item. -/
def itemDepth : List Node → Nat
  | [] => 0
  | n :: rest => max n.depth (itemDepth rest)

/-- The depth of the deepest key or value. -/
def memberDepth : List (Node × Node) → Nat
  | [] => 0
  | (k, v) :: rest => max (max k.depth v.depth) (memberDepth rest)

end

/-- The node that stands where nothing is written. -/
def empty (tag : Option String) : Node := scalar .plain tag ""

/-! ## Composing -/

/-- What is known while nodes are put together. -/
structure Composer where
  rest : List Token
  /-- What handles of tags stand for. -/
  handles : List (String × String)
  /-- The nodes with anchors, latest first, each with the number of copies that went into it. A node
  that is not complete yet is missing. -/
  anchors : List (String × Option (Node × Nat)) := []
  /-- The number of scalars, aliases, and starts and ends of lists and maps. -/
  events : Nat := 0
  /-- The number of copies made for aliases, and within them. -/
  copies : Nat := 0

/-- A step of composing; it fails on malformed input. -/
abbrev Compose := StateT Composer Option

namespace Compose

/-- The next token. -/
def peek : Compose (Option Token) := do return (← get).rest.head?

/-- Step over a token. -/
def advance : Compose Unit := modify fun s => { s with rest := s.rest.tail }

/-- Step over a given token, if it is the next one. -/
def accept (t : Token) : Compose Bool := do
  if (← peek) = some t then
    advance
    return true
  else return false

/-- Whether one of some tokens is next, or none at all. -/
def atOneOf (ts : List Token) : Compose Bool := do
  match ← peek with
  | none => return true
  | some t => return ts.contains t

/-- Count scalars, aliases, starts and ends. -/
def count (n : Nat) : Compose Unit := modify fun s => { s with events := s.events + n }

/-- An empty node. -/
def nothing (tag : Option String) : Compose Node := do
  count 1
  return .empty tag

/-- An anchor and a tag, in either order. -/
def properties : Compose (Option String × Option (String × String)) := do
  match ← peek with
  | some (.anchor name) =>
    advance
    match ← peek with
    | some (.tag handle suffix) =>
      advance
      return (some name, some (handle, suffix))
    | _ => return (some name, none)
  | some (.tag handle suffix) =>
    advance
    match ← peek with
    | some (.anchor name) =>
      advance
      return (some name, some (handle, suffix))
    | _ => return (none, some (handle, suffix))
  | _ => return (none, none)

/-- A tag in full. -/
def fullTag : Option (String × String) → Compose (Option String)
  | none => return none
  | some (handle, suffix) => do
    if handle = "" then return some suffix
    else
      let some start := (← get).handles.lookup handle | failure
      return some (start ++ suffix)

/-- The copy of a node that an alias stands for. -/
def copyOf (name : String) : Compose Node := do
  count 1
  let some (some (n, within)) := (← get).anchors.lookup name | failure
  modify fun s => { s with copies := s.copies + 1 + within }
  return n

/-- Compose a node under an anchor. -/
def anchored (anchor : Option String) (body : Compose Node) : Compose Node := do
  match anchor with
  | none => body
  | some name =>
    modify fun s => { s with anchors := (name, none) :: s.anchors }
    let before := (← get).copies
    let n ← body
    modify fun s => { s with anchors := (name, some (n, s.copies - before)) :: s.anchors }
    return n

mutual

/-- A node. In block style there may be block collections, and behind a key also a list that is not
indented. -/
def node : Nat → Bool → Bool → Compose Node
  | 0, _, _ => failure
  | fuel + 1, block, unindented => do
    if let some (.alias name) := ← peek then
      advance
      copyOf name
    else
      let (anchor, tag) ← properties
      let tag ← fullTag tag
      anchored anchor do
        match ← peek with
        | some .blockEntry =>
          if unindented then
            count 2
            return .list tag (← unindentedItems fuel)
          else if anchor.isSome ∨ tag.isSome then nothing tag
          else failure
        | some (.scalar style text) =>
          advance
          count 1
          return .scalar style (if tag = some "!" then none else tag) text
        | some .flowListStart =>
          advance
          count 2
          return .list tag (← flowItems fuel true)
        | some .flowMapStart =>
          advance
          count 2
          return .map tag (← flowMembers fuel true)
        | some .blockListStart =>
          if block then
            advance
            count 2
            return .list tag (← blockItems fuel)
          else if anchor.isSome ∨ tag.isSome then nothing tag
          else failure
        | some .blockMapStart =>
          if block then
            advance
            count 2
            return .map tag (← blockMembers fuel)
          else if anchor.isSome ∨ tag.isSome then nothing tag
          else failure
        | _ => if anchor.isSome ∨ tag.isSome then nothing tag else failure

/-- A node, or an empty one before one of some tokens. -/
def nodeBefore : Nat → List Token → Bool → Bool → Compose Node
  | 0, _, _, _ => failure
  | fuel + 1, ends, block, unindented => do
    if ← atOneOf ends then nothing none else node fuel block unindented

/-- The items of a block list, and its end. -/
def blockItems : Nat → Compose (List Node)
  | 0 => failure
  | fuel + 1 => do
    if ← accept .blockEntry then
      let n ← nodeBefore fuel [.blockEntry, .blockEnd] true false
      return n :: (← blockItems fuel)
    else if ← accept .blockEnd then return []
    else failure

/-- The items of a list that stands behind a key without being indented. -/
def unindentedItems : Nat → Compose (List Node)
  | 0 => failure
  | fuel + 1 => do
    if ← accept .blockEntry then
      let n ← nodeBefore fuel [.blockEntry, .key, .value, .blockEnd] true false
      return n :: (← unindentedItems fuel)
    else return []

/-- The members of a block map, and its end. -/
def blockMembers : Nat → Compose (List (Node × Node))
  | 0 => failure
  | fuel + 1 => do
    if ← accept .key then
      let ends := [Token.key, .value, .blockEnd]
      let k ← nodeBefore fuel ends true true
      let v ← if ← accept .value then nodeBefore fuel ends true true else nothing none
      return (k, v) :: (← blockMembers fuel)
    else if ← accept .blockEnd then return []
    else failure

/-- The items of a list in brackets, and the closing bracket. An item written like a member of a map
is a map of that member. -/
def flowItems : Nat → Bool → Compose (List Node)
  | 0, _ => failure
  | fuel + 1, first => do
    if ← accept .flowListEnd then return []
    else if !first && !(← accept .flowEntry) then failure
    else if ← accept .key then
      count 2
      let missing ← atOneOf [.value, .flowEntry, .flowListEnd]
      if missing then advance
      let k ← if missing then nothing none else node fuel false false
      let v ← if ← accept .value then nodeBefore fuel [.flowEntry, .flowListEnd] false false
        else nothing none
      return .map none [(k, v)] :: (← flowItems fuel false)
    else if ← accept .flowListEnd then return []
    else
      let n ← node fuel false false
      return n :: (← flowItems fuel false)

/-- The members of a map in braces, and the closing brace. -/
def flowMembers : Nat → Bool → Compose (List (Node × Node))
  | 0, _ => failure
  | fuel + 1, first => do
    if ← accept .flowMapEnd then return []
    else if !first && !(← accept .flowEntry) then failure
    else if ← accept .key then
      let k ← nodeBefore fuel [.value, .flowEntry, .flowMapEnd] false false
      let v ← if ← accept .value then nodeBefore fuel [.flowEntry, .flowMapEnd] false false
        else nothing none
      return (k, v) :: (← flowMembers fuel false)
    else if ← accept .flowMapEnd then return []
    else
      let k ← node fuel false false
      let v ← nothing none
      return (k, v) :: (← flowMembers fuel false)

end

/-- What handles stand for without directives. -/
def usualHandles : List (String × String) := [("!", "!"), ("!!", "tag:yaml.org,2002:")]

/-- Read the directives of a document. Each may stand once. -/
def directives : Nat → Bool → List (String × String) → Compose Unit
  | 0, _, _ => failure
  | fuel + 1, versioned, handles => do
    match ← peek with
    | some (.version major minor) =>
      if versioned ∨ major ≠ 1 ∨ (minor ≠ 1 ∧ minor ≠ 2) then failure
      else
        advance
        directives fuel true handles
    | some (.tagPrefix handle start) =>
      if (handles.lookup handle).isSome then failure
      else
        advance
        directives fuel versioned ((handle, start) :: handles)
    | _ => modify fun s => { s with handles := handles ++ usualHandles }

/-- Whether the next token begins a directive. -/
def atDirective : Compose Bool := do
  match ← peek with
  | some (.version ..) | some (.tagPrefix ..) => return true
  | _ => return false

/-- The only document of the tokens; without tokens there is none. -/
def document (fuel : Nat) : Compose (Option Node) := do
  match ← peek with
  | none => return none
  | some _ =>
    let directed ← atDirective
    directives fuel false []
    let n ←
      if ← accept .documentStart then
        if (← atOneOf [.documentStart, .documentEnd]) || (← atDirective) then nothing none
        else node fuel true false
      else if directed then failure
      else node fuel true false
    let s ← get
    if s.rest.all (· = .documentEnd) ∧ s.copies ≤ 100 * s.events then return some n else failure

end Compose

/-- The only document of a token sequence. The outer option is empty for malformed input, the inner
one for an empty text. Composing takes at most four nested steps for a token. -/
def ofTokens? (tokens : List Token) : Option (Option Node) :=
  ((Compose.document (4 * tokens.length + 8)).run
    { rest := tokens, handles := Compose.usualHandles }).map (·.1)

/-- The only document of a text. -/
def ofText? (text : String) : Option (Option Node) := (tokens? text).bind ofTokens?

end Node

end HomeEnergy.Yaml
