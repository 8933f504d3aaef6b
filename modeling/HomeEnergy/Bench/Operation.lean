import HomeEnergy.Bench.Fault
import HomeEnergy.Document.Fields
import HomeEnergy.Link.Modbus

/-!
# Uses of a session on the bench

A use is a list of operations, which are carried out one after the other up to the first fault.

## Main results

* `Operation.ofDocument` — an operation, from a list of its name and its arguments.
* `Operation.runAll` — a use.
-/

namespace HomeEnergy.Bench

/-- One operation of a use. -/
inductive Operation where
  | readHolding (address count : Nat)
  | readInput (address count : Nat)
  | writeSingle (address : Nat) (word : UInt16)
  | writeMultiple (address : Nat) (words : List UInt16)
  | sleep (d : Span)
  /-- A fault that does not come from the device. -/
  | fail (kind : String)
deriving Repr

namespace Operation

/-- The word that a document gives. -/
def word? (d : Document) : Option UInt16 := (d.natural? 16).map UInt16.ofNat

/-- The operation that a document gives. -/
def ofDocument : Document → Option Operation
  | .list [.text "rh", a, n] => do return .readHolding (← a.natural? 16) (← n.natural? 16)
  | .list [.text "ri", a, n] => do return .readInput (← a.natural? 16) (← n.natural? 16)
  | .list [.text "ws", a, w] => do return .writeSingle (← a.natural? 16) (← word? w)
  | .list [.text "wm", a, .list ws] => do
    return .writeMultiple (← a.natural? 16) (← ws.mapM word?)
  | .list [.text "sleep", ms] => do return .sleep (.ofMillis (← ms.natural? 64))
  | .list [.text "err", .text kind] => some (.fail kind)
  | _ => none

variable {σ S : Type}

/-- The words of a read, as a document. -/
def told (words : List UInt16) : Document := .list (words.map fun w => .int w.toNat)

/-- Carry out an operation. Only reads tell something. -/
def run (c : Controller σ S) (session : S) : Operation → Routine σ (Outcome Document)
  | readHolding a n => do return (← c.readHolding session a n).map told
  | readInput a n => do return (← c.readInput session a n).map told
  | writeSingle a w => do return (← c.writeSingle session a w).map fun _ => .null
  | writeMultiple a ws => do return (← c.writeMultiple session a ws).map fun _ => .null
  | sleep d => do
    .pause d
    return .ok .null
  | fail kind => pure (.error (fault kind))

/-- Carry out operations one after the other, up to the first fault. -/
def runAll (c : Controller σ S) (session : S) :
    List Operation → Routine σ (Outcome (List Document))
  | [] => pure (.ok [])
  | op :: rest => do
    match ← op.run c session with
    | .error f => return .error f
    | .ok d =>
      match ← runAll c session rest with
      | .error f => return .error f
      | .ok ds => return .ok (d :: ds)

end Operation

end HomeEnergy.Bench
