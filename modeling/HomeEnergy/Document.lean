/-!
# Documents

The tree of plain data that configurations, device answers and records are written as. The members
of a map are kept in the order in which they were written, repetitions included; `sorted` is the
normal form in which each key stands once, keys ascend, and the last writing of a key counts.

## Main results

* `Document.at?` — the document at the end of a path of keys.
* `Document.sorted` — the normal form.
-/

namespace HomeEnergy

/-- A tree of plain data. Whole numbers and floating-point numbers are told apart. -/
inductive Document where
  | null
  | bool (b : Bool)
  | int (n : Int)
  | float (x : Float)
  | text (s : String)
  | list (items : List Document)
  | map (members : List (String × Document))
deriving Inhabited

namespace Document

/-- The last member with a key. -/
def member? (key : String) (members : List (String × Document)) : Option Document :=
  (members.reverse.find? (·.1 == key)).map (·.2)

/-- The member of a map under a key; other documents have no members. -/
def get? (key : String) : Document → Option Document
  | map members => member? key members
  | _ => none

/-- The item of a list at an index; other documents have no items. -/
def item? (i : Nat) : Document → Option Document
  | list items => items[i]?
  | _ => none

/-- The document at the end of a path of keys. -/
def at? (d : Document) : List String → Option Document
  | [] => some d
  | key :: path => (d.get? key).bind (·.at? path)

@[simp] theorem member?_nil (key : String) : member? key [] = none := rfl

/-- Put a member into a list of members with ascending keys, in place of one with the same key. -/
def insertMember (key : String) (d : Document) :
    List (String × Document) → List (String × Document)
  | [] => [(key, d)]
  | (k, e) :: rest =>
    if key < k then (key, d) :: (k, e) :: rest
    else if key = k then (key, d) :: rest
    else (k, e) :: insertMember key d rest

mutual

/-- The normal form of a document: in every map each key once, keys ascending, the last writing of
a repeated key in force. -/
def sorted : Document → Document
  | list items => list (sortedItems items)
  | map members => map (sortedMembers [] members)
  | d => d

/-- The items of a list in normal form. -/
def sortedItems : List Document → List Document
  | [] => []
  | d :: rest => d.sorted :: sortedItems rest

/-- The members of a map in normal form, put one after the other into those before them. -/
def sortedMembers (before : List (String × Document)) :
    List (String × Document) → List (String × Document)
  | [] => before
  | (key, d) :: rest => sortedMembers (insertMember key d.sorted before) rest

end

/-- The text, if the document is one. -/
def text? : Document → Option String
  | text s => some s
  | _ => none

/-- The truth value, if the document is one. -/
def bool? : Document → Option Bool
  | bool b => some b
  | _ => none

/-- The number, whole or not, as a double. -/
def number? : Document → Option Float
  | float x => some x
  | int n => some (if n < 0 then -Float.ofScientific n.natAbs false 0
      else Float.ofScientific n.natAbs false 0)
  | _ => none

/-- The whole number, if the document is one from `low` up to and including `high`. -/
def int? (low high : Int) : Document → Option Int
  | int n => if low ≤ n ∧ n ≤ high then some n else none
  | _ => none

/-- The unsigned whole number of `bits` bits, if the document is one. -/
def natural? (bits : Nat) (d : Document) : Option Nat :=
  (d.int? 0 (Nat.pow 2 bits - 1)).map Int.toNat

/-- The whole number in two's complement of `bits` bits, if the document is one. -/
def integer? (bits : Nat) (d : Document) : Option Int :=
  d.int? (-Nat.pow 2 (bits - 1)) (Nat.pow 2 (bits - 1) - 1)

end Document

end HomeEnergy
