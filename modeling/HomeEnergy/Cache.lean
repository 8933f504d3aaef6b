import HomeEnergy.Catalog
import HomeEnergy.Document.Json.Reader
import HomeEnergy.Fault

/-!
# The cache of latest records

For each module the bytes of the latest record that it produced. An entry is always replaced as a
whole and never expires. It is these bytes and nothing else: at what time it was put is not kept, as
nobody asks for that. So an entry with all that is known of it is the same as its bytes.

## Main results

* `Cache.get?_put` — the entry of a module after one has been put.
* `Cache.put_comm` — entries of two modules, put in either order.
* `Cache.read` — an entry as a record; it is the fault of the entry if it is none.
-/

namespace HomeEnergy

/-- The latest record of each module. -/
structure Cache where
  records : Catalog ByteArray := .empty
deriving Inhabited

namespace Cache

/-- The cache without entries. -/
def empty : Cache := ⟨.empty⟩

/-- Replace the entry of a module. -/
def put (c : Cache) (name : String) (payload : ByteArray) : Cache :=
  ⟨c.records.insert name payload⟩

/-- The entry of a module. -/
def get? (c : Cache) (name : String) : Option ByteArray := c.records.find? name

/-- Whether a module has an entry. -/
def contains (c : Cache) (name : String) : Bool := (c.get? name).isSome

/-- The modules with an entry, in ascending order. -/
def names (c : Cache) : List String := c.records.names

/-- The number of entries. -/
def size (c : Cache) : Nat := c.records.size

/-- Whether there are no entries. -/
def isEmpty (c : Cache) : Bool := c.records.entries.isEmpty

/-- A copy of all entries, names ascending. -/
def snapshot (c : Cache) : List (String × ByteArray) := c.records.entries

/-- Replace the entry of a module by a record, if the record can be written. -/
def store {ρ : Type} (c : Cache) (name : String) (write : ρ → Outcome Document) (record : ρ) :
    Outcome Cache :=
  (write record).map fun d => c.put name (Json.bytes d)

/-- The entry of a module, read as a record. -/
def read {ρ : Type} (c : Cache) (name : String) (decode : Document → Option ρ) : Outcome ρ :=
  match c.get? name with
  | none => .error (.notFound ("state for module \"" ++ name ++ "\""))
  | some payload =>
    match (Json.readBytes payload).bind decode with
    | some r => .ok r
    | none => .error (.serialization "malformed record")

@[simp] theorem get?_put (c : Cache) (name m : String) (payload : ByteArray) :
    (c.put name payload).get? m = if m = name then some payload else c.get? m :=
  Catalog.find?_insert ..

/-- It makes no difference in which order two modules put their entries. -/
theorem put_comm (c : Cache) {a b : String} (hab : a ≠ b) (x y : ByteArray) :
    (c.put a x).put b y = (c.put b y).put a x :=
  congrArg Cache.mk (Catalog.insert_comm c.records hab x y)

end Cache

end HomeEnergy
