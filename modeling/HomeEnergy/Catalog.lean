/-!
# Catalogues

A catalogue holds one value for each of finitely many names. The names ascend, so that two
catalogues with the same content are equal and listing one needs no sorting.

## Main results

* `Catalog.find?_insert` — a look-up after writing an entry.
* `Catalog.names_ascending` — the names are listed in strictly ascending order.
* `Catalog.mem_entries` — the entries are what is found.
* `Catalog.insert_comm`, `Catalog.alter_comm` — changes in either order.
-/

namespace HomeEnergy

/-- One value for each of finitely many names. -/
structure Catalog (α : Type) where
  entries : List (String × α) := []
  ascending : (entries.map (·.1)).Pairwise (· < ·) := by exact List.Pairwise.nil

namespace Catalog

variable {α : Type}

instance : Inhabited (Catalog α) := ⟨{}⟩

/-- The catalogue without entries. -/
def empty : Catalog α := {}

/-- Put an entry into a list of entries with ascending names, in place of one with its name. -/
def insertEntry (name : String) (value : α) : List (String × α) → List (String × α)
  | [] => [(name, value)]
  | (n, v) :: rest =>
    if name < n then (name, value) :: (n, v) :: rest
    else if name = n then (name, value) :: rest
    else (n, v) :: insertEntry name value rest

theorem mem_insertEntry {name m : String} {value : α} {entries : List (String × α)} :
    m ∈ (insertEntry name value entries).map (·.1) ↔ m = name ∨ m ∈ entries.map (·.1) := by
  induction entries with
  | nil => simp [insertEntry]
  | cons head rest ih =>
    obtain ⟨n, v⟩ := head
    unfold insertEntry
    split
    · simp
    · split
      · next h => subst h; simp
      · simp only [List.map_cons, List.mem_cons, ih]
        constructor
        · rintro (h | h | h) <;> simp [h]
        · rintro (h | h | h) <;> simp [h]

theorem ascending_insertEntry {name : String} {value : α} {entries : List (String × α)}
    (h : (entries.map (·.1)).Pairwise (· < ·)) :
    ((insertEntry name value entries).map (·.1)).Pairwise (· < ·) := by
  induction entries with
  | nil => simp [insertEntry]
  | cons head rest ih =>
    obtain ⟨n, v⟩ := head
    simp only [List.map_cons, List.pairwise_cons] at h
    unfold insertEntry
    split
    · next hlt =>
      simp only [List.map_cons, List.pairwise_cons]
      refine ⟨fun m hm => ?_, h⟩
      rcases List.mem_cons.1 hm with rfl | hm
      · exact hlt
      · exact String.lt_trans hlt (h.1 m hm)
    · split
      · next heq => subst heq; simpa using h
      · next hlt hne =>
        simp only [List.map_cons, List.pairwise_cons]
        refine ⟨fun m hm => ?_, ih h.2⟩
        rcases mem_insertEntry.1 hm with rfl | hm
        · rcases String.le_total n m with hle | hle
          · rcases Decidable.em (n < m) with hl | hl
            · exact hl
            · exact absurd (String.le_antisymm (String.not_lt.1 hl) hle) hne
          · rcases Decidable.em (n < m) with hl | hl
            · exact hl
            · exact absurd (String.le_antisymm (String.not_lt.1 hl) (String.not_lt.1 hlt)) hne
        · exact h.1 m hm

/-- Write an entry. -/
def insert (c : Catalog α) (name : String) (value : α) : Catalog α where
  entries := insertEntry name value c.entries
  ascending := ascending_insertEntry c.ascending

/-- The value under a name. -/
def find? (c : Catalog α) (name : String) : Option α := c.entries.lookup name

/-- The names, in ascending order. -/
def names (c : Catalog α) : List String := c.entries.map (·.1)

/-- The number of entries. -/
def size (c : Catalog α) : Nat := c.entries.length

/-- Change the value under a name; a missing one counts as `default`. -/
def alter (c : Catalog α) (name : String) (default : α) (f : α → α) : Catalog α :=
  c.insert name (f ((c.find? name).getD default))

theorem names_ascending (c : Catalog α) : c.names.Pairwise (· < ·) := c.ascending

private theorem lookup_insertEntry (name m : String) (value : α) (entries : List (String × α)) :
    (insertEntry name value entries).lookup m
      = if m = name then some value else entries.lookup m := by
  induction entries with
  | nil => simp only [insertEntry, List.lookup_cons, List.lookup_nil]; split <;> simp_all
  | cons head rest ih =>
    obtain ⟨n, v⟩ := head
    unfold insertEntry
    split
    · simp only [List.lookup_cons]; split <;> simp_all
    · split
      · next h => subst h; simp only [List.lookup_cons]; split <;> simp_all
      · next hne =>
        simp only [List.lookup_cons, ih]
        by_cases hn : m = n
        · subst hn; simp [Ne.symm hne]
        · simp [beq_eq_false_iff_ne.2 hn]

@[simp] theorem find?_insert (c : Catalog α) (name m : String) (value : α) :
    (c.insert name value).find? m = if m = name then some value else c.find? m :=
  lookup_insertEntry name m value c.entries

private theorem lookup_eq_none {name : String} {entries : List (String × α)}
    (h : ∀ m ∈ entries.map (·.1), name < m) : entries.lookup name = none := by
  induction entries with
  | nil => rfl
  | cons head rest ih =>
    obtain ⟨n, v⟩ := head
    have hne : name ≠ n := fun heq => String.lt_irrefl n (heq ▸ h n (by simp))
    rw [List.lookup_cons, beq_eq_false_iff_ne.2 hne]
    exact ih fun m hm => h m (List.mem_cons_of_mem _ hm)

private theorem head_le_of_lookup {name n : String} {v w : α} {rest : List (String × α)}
    (h : ∀ m ∈ rest.map (·.1), n < m) (hfound : ((n, v) :: rest).lookup name = some w) :
    n ≤ name := by
  refine String.not_lt.1 fun hlt => ?_
  have hnone : ((n, v) :: rest).lookup name = none := by
    apply lookup_eq_none
    intro m hm
    rcases List.mem_cons.1 hm with rfl | hm
    · exact hlt
    · exact String.lt_trans hlt (h m hm)
  rw [hfound] at hnone
  cases hnone

private theorem entries_eq_of_lookup {entries others : List (String × α)}
    (h : (entries.map (·.1)).Pairwise (· < ·)) (h' : (others.map (·.1)).Pairwise (· < ·))
    (hlookup : ∀ m, entries.lookup m = others.lookup m) : entries = others := by
  induction entries generalizing others with
  | nil =>
    cases others with
    | nil => rfl
    | cons head rest =>
      obtain ⟨n, v⟩ := head
      simpa using hlookup n
  | cons head rest ih =>
    obtain ⟨n, v⟩ := head
    have hfound : ((n, v) :: rest).lookup n = some v := by simp
    cases others with
    | nil => simpa [hfound] using hlookup n
    | cons head' rest' =>
      obtain ⟨n', v'⟩ := head'
      have hfound' : ((n', v') :: rest').lookup n' = some v' := by simp
      simp only [List.map_cons, List.pairwise_cons] at h h'
      -- Each of the two first names is found in the other list, so neither can be the smaller one.
      obtain rfl : n = n' := String.le_antisymm
        (head_le_of_lookup h.1 ((hlookup n').trans hfound'))
        (head_le_of_lookup h'.1 ((hlookup n).symm.trans hfound))
      obtain rfl : v = v' := Option.some.inj (hfound.symm.trans ((hlookup n).trans hfound'))
      have hrest : ∀ m, rest.lookup m = rest'.lookup m := fun m => by
        by_cases hm : m = n
        · subst hm
          rw [lookup_eq_none h.1, lookup_eq_none h'.1]
        · simpa [List.lookup_cons, beq_eq_false_iff_ne.2 hm] using hlookup m
      rw [ih h.2 h'.2 hrest]

/-- A catalogue is what it shows under each name. -/
theorem eq_of_find? {c d : Catalog α} (h : ∀ name, c.find? name = d.find? name) : c = d := by
  obtain ⟨entries, hc⟩ := c
  obtain ⟨others, hd⟩ := d
  obtain rfl := entries_eq_of_lookup hc hd h
  rfl

private theorem mem_iff_lookup {name : String} {value : α} {entries : List (String × α)}
    (h : (entries.map (·.1)).Pairwise (· < ·)) :
    (name, value) ∈ entries ↔ entries.lookup name = some value := by
  induction entries with
  | nil => simp
  | cons head rest ih =>
    obtain ⟨n, v⟩ := head
    simp only [List.map_cons, List.pairwise_cons] at h
    rw [List.mem_cons, List.lookup_cons]
    by_cases hn : name = n
    · subst hn
      have hrest : (name, value) ∉ rest := fun hmem =>
        String.lt_irrefl name (h.1 name (List.mem_map_of_mem hmem))
      simp [hrest, eq_comm]
    · simp [hn, beq_eq_false_iff_ne.2 hn, ih h.2]

/-- The entries are what is found. -/
theorem mem_entries {c : Catalog α} {name : String} {value : α} :
    (name, value) ∈ c.entries ↔ c.find? name = some value :=
  mem_iff_lookup c.ascending

/-- It makes no difference in which order two entries are written. -/
theorem insert_comm (c : Catalog α) {a b : String} (hab : a ≠ b) (x y : α) :
    (c.insert a x).insert b y = (c.insert b y).insert a x := by
  apply eq_of_find?
  intro name
  simp only [find?_insert]
  by_cases ha : name = a
  · subst ha
    simp [hab]
  · simp [ha]

/-- Two changes that commute do so in a catalogue. -/
theorem alter_comm (c : Catalog α) {a b : String} (default : α) {f g : α → α}
    (h : a = b → ∀ x, f (g x) = g (f x)) :
    (c.alter a default f).alter b default g = (c.alter b default g).alter a default f := by
  apply eq_of_find?
  intro name
  simp only [alter, find?_insert]
  by_cases hab : a = b
  · subst hab
    by_cases ha : name = a
    · simp [ha, h rfl]
    · simp [ha]
  · by_cases ha : name = a
    · subst ha
      simp [hab]
    · simp [ha, Ne.symm hab]

end Catalog

end HomeEnergy
