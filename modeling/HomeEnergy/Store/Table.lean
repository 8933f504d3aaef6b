import HomeEnergy.Document
import HomeEnergy.Timestamp

/-!
# Tables

Each kind of record has a table, with a row per record and a column for the time. A table is divided
by time; making it and dividing it may be repeated.

## Main results

* `Table.schema` — the statements that make a table.
* `Table.insert` — the statement that adds a record.
-/

namespace HomeEnergy.Store

/-- A value in a row. -/
inductive Value where
  | time (t : Timestamp)
  | double (x : Float)
  /-- Eight bytes. -/
  | large (n : Int)
  /-- Four bytes. -/
  | small (n : Int)
  | document (d : Document)

/-- A statement and the values in it. -/
structure Statement where
  text : String
  values : List Value := []

/-- A column: its name, its type, and its value in the row of a record. -/
structure Column (ρ : Type) where
  name : String
  type : String
  value : ρ → Value

namespace Column

variable {ρ : Type}

/-- A column of doubles. -/
def double (name : String) (value : ρ → Float) : Column ρ :=
  ⟨name, "DOUBLE PRECISION", .double ∘ value⟩

/-- A column of eight-byte integers. -/
def large (name : String) (value : ρ → Int) : Column ρ := ⟨name, "BIGINT", .large ∘ value⟩

/-- A column of four-byte integers. -/
def small (name : String) (value : ρ → Int) : Column ρ := ⟨name, "INTEGER", .small ∘ value⟩

/-- A column of documents. -/
def document (name : String) (value : ρ → Document) : Column ρ :=
  ⟨name, "JSONB", .document ∘ value⟩

end Column

/-- The table of a kind of record. -/
structure Table (ρ : Type) where
  name : String
  time : ρ → Timestamp
  columns : List (Column ρ)

/-- The statement that divides a table by time. -/
def hypertable (table : String) : String :=
  "SELECT create_hypertable('" ++ table ++ "', 'time', if_not_exists => TRUE)"

namespace Table

variable {ρ : Type}

/-- The statement that makes a table. -/
def creation (t : Table ρ) : String :=
  let columns := "time TIMESTAMPTZ NOT NULL" :: t.columns.map fun c => c.name ++ " " ++ c.type
  "CREATE TABLE IF NOT EXISTS " ++ t.name ++ " ( " ++ ", ".intercalate columns ++ " )"

/-- The statements that make a table. -/
def schema (t : Table ρ) : List Statement := [⟨t.creation, []⟩, ⟨hypertable t.name, []⟩]

/-- The statement that adds a record. -/
def insert (t : Table ρ) (record : ρ) : Statement :=
  let names := "time" :: t.columns.map (·.name)
  let places := (List.range names.length).map fun i => "$" ++ toString (i + 1)
  ⟨"INSERT INTO " ++ t.name ++ " ( " ++ ", ".intercalate names ++ " ) VALUES ( "
    ++ ", ".intercalate places ++ " )",
    .time (t.time record) :: t.columns.map fun c => c.value record⟩

end Table

end HomeEnergy.Store
