import HomeEnergy.Module.Poller
import HomeEnergy.Settings
import HomeEnergy.Store.Table
import HomeEnergy.Url

/-!
# Storing records

Records go into tables of a database, each within a transaction of its own, which is committed only
if the record could be added.

## Main results

* `Store.Table.sink` — a table as a place that records are handed to.
* `DatabaseSettings.hasAddress` — whether the address of the database can be read.
-/

namespace HomeEnergy

namespace Store

/-- A database. A failure is told in words. -/
structure Database (σ : Type) where
  /-- Run a statement by itself. -/
  run : Statement → Routine σ (Except String Unit)
  /-- Begin a transaction. -/
  begin : Routine σ (Except String Unit)
  /-- Run a statement within the transaction. -/
  within : Statement → Routine σ (Except String Unit)
  commit : Routine σ (Except String Unit)
  rollback : Routine σ (Except String Unit)

namespace Database

variable {σ : Type}

/-- Run statements one after the other, up to the first failure. -/
def prepare (db : Database σ) : List Statement → Routine σ (Outcome Unit)
  | [] => pure (.ok ())
  | s :: rest => do
    match ← db.run s with
    | .error e => return .error (.persistence ("schema preparation failed: " ++ e))
    | .ok () => db.prepare rest

/-- Run a statement in a transaction of its own. After a failure of the statement the transaction is
rolled back, and it does not matter how that goes. -/
def transact (db : Database σ) (s : Statement) : Routine σ (Outcome Unit) := do
  match ← db.begin with
  | .error e => return .error (.database e)
  | .ok () =>
    match ← db.within s with
    | .ok () => return (← db.commit).mapError .database
    | .error e =>
      let _ ← db.rollback
      return .error (.database e)

end Database

variable {σ ρ : Type}

/-- A table as a place that records are handed to. -/
def Table.sink (db : Database σ) (t : Table ρ) : Sink σ ρ where
  prepare := db.prepare t.schema
  write record := db.transact (t.insert record)

/-- The place for the records of a table: the database, or nowhere if there is none. -/
def Table.place (db : Option (Database σ)) (t : Table ρ) : Sink σ ρ :=
  match db with
  | some db => t.sink db
  | none => .discard

end Store

/-! ## The address of the database -/

/-- The modes of encryption that an address may ask for. -/
def encryptionModes : List String :=
  ["disable", "allow", "prefer", "require", "verify-ca", "verify-full"]

/-- Whether an option in an address has a value that can be read. -/
def isReadableOption (name value : String) : Bool :=
  match name with
  | "sslmode" | "ssl-mode" => encryptionModes.contains (String.ofList (Text.lowered value.toList))
  | "statement-cache-capacity" => (readInteger 128 value.toList).toOption.any
      fun (n : Int) => 0 ≤ n && n < Nat.pow 2 64
  | "port" => (readInteger 128 value.toList).toOption.any fun (n : Int) => 0 ≤ n && n < Nat.pow 2 16
  | "hostaddr" => Url.isQuad value || Url.isLongNumber value
  | _ => true

/-- Whether percent signs in a part of an address write a text. -/
def isReadablePart (part : List Char) : Bool := (Percent.text? (String.ofList part)).isSome

/-- Whether the address of the database can be read. Its parts are not marked off from each other,
so that separators within them shift where they end. -/
def DatabaseSettings.hasAddress (s : DatabaseSettings) : Bool :=
  match Text.after? "postgres://".toList s.url.toList with
  | none => false
  | some rest =>
    match Url.authority? false rest with
    | none => false
    | some (a, rest) =>
      let rest := rest.takeWhile (· != '#')
      let path := rest.takeWhile (· != '?')
      let query := String.ofList ((rest.dropWhile (· != '?')).drop 1)
      isReadablePart a.user && isReadablePart a.password
        && isReadablePart (Text.dropLeading '/' path)
        && (Percent.form query).all fun (name, value) => isReadableOption name value

end HomeEnergy
