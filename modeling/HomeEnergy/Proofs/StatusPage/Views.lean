import HomeEnergy.Proofs.Document.Normal
import HomeEnergy.StatusPage

/-!
# The two views of the cache

The status page shows the cache in two ways: the bytes of one entry as they are, and one document of
all entries. The second view is there only if every entry is a document; then its members are the
names of the entries, and under each name stands what the bytes of the first view say.

## Main results

* `StatusPage.collect_eq_ok_iff` — what putting entries together comes to.
* `StatusPage.agree` — what the two views show of a cache.
-/

namespace HomeEnergy.StatusPage

variable {entries : List (String × ByteArray)} {members : List (String × Document)}

/-- A member shows an entry: it has the name of the entry, and is what its bytes say, in normal
form. -/
def Shows (entry : String × ByteArray) (member : String × Document) : Prop :=
  member.1 = entry.1 ∧ (Json.readBytes entry.2).map Document.sorted = some member.2

/-- Entries are put together to members that show them, one by one. -/
theorem collect_eq_ok_iff : collect entries = .ok members ↔ List.Forall₂ Shows entries members := by
  induction entries generalizing members with
  | nil =>
      rw [collect, Except.ok.injEq, List.forall₂_nil_left_iff]
      exact eq_comm
  | cons entry rest ih =>
      obtain ⟨name, payload⟩ := entry
      rw [collect, List.forall₂_cons_left_iff]
      cases hread : Json.readBytes payload with
      | none =>
          constructor
          · intro h
            cases h
          · rintro ⟨member, _, ⟨-, hshown⟩, -⟩
            rw [hread] at hshown
            cases hshown
      | some d =>
          cases hrest : collect rest with
          | error f =>
              constructor
              · intro h
                cases h
              · rintro ⟨_, others, -, hothers, -⟩
                rw [ih.2 hothers] at hrest
                cases hrest
          | ok others =>
              constructor
              · intro h
                obtain rfl := Except.ok.inj h
                refine ⟨_, others, ⟨rfl, ?_⟩, ih.1 hrest, rfl⟩
                rw [hread]
                rfl
              · rintro ⟨⟨name', d'⟩, others', ⟨rfl, hshown⟩, hothers, rfl⟩
                rw [hread, Option.map_some, Option.some.injEq] at hshown
                have heq := (ih.2 hothers).symm.trans hrest
                obtain rfl := Except.ok.inj heq
                subst hshown
                rfl

/-- Members bear the names of the entries, in the same order. -/
theorem names_of_shown (h : List.Forall₂ Shows entries members) :
    members.map (·.1) = entries.map (·.1) := by
  induction h with
  | nil => rfl
  | cons hshown _ ih => rw [List.map_cons, List.map_cons, hshown.1, ih]

theorem exists_shown {entry : String × ByteArray} (h : List.Forall₂ Shows entries members)
    (hentry : entry ∈ entries) : ∃ member ∈ members, Shows entry member := by
  induction h with
  | nil => cases hentry
  | cons hshown _ ih =>
      rcases List.mem_cons.1 hentry with rfl | hrest
      · exact ⟨_, List.mem_cons_self, hshown⟩
      · obtain ⟨member, hmember, hshown'⟩ := ih hrest
        exact ⟨member, List.mem_cons_of_mem _ hmember, hshown'⟩

/-- Entries can be put together if all of them are documents. -/
theorem exists_collect_iff : (∃ members, collect entries = .ok members) ↔
    ∀ entry ∈ entries, (Json.readBytes entry.2).isSome = true := by
  simp only [collect_eq_ok_iff]
  induction entries with
  | nil =>
      constructor
      · intro _ entry hentry
        cases hentry
      · intro _
        exact ⟨[], .nil⟩
  | cons entry rest ih =>
      rw [List.forall_mem_cons, ← ih]
      constructor
      · rintro ⟨_, h⟩
        cases h with
        | cons hshown hrest =>
            have hread := Option.isSome_of_eq_some hshown.2
            rw [Option.isSome_map] at hread
            exact ⟨hread, _, hrest⟩
      · rintro ⟨hread, members, hrest⟩
        obtain ⟨d, hd⟩ := Option.isSome_iff_exists.1 hread
        refine ⟨(entry.1, d.sorted) :: members, .cons ⟨rfl, ?_⟩ hrest⟩
        rw [hd]
        rfl

/-! ## Both views -/

/-- What the two views show of a cache. -/
structure Agree (c : Cache) : Prop where
  /-- The bytes of an entry are shown as they are. -/
  stored : ∀ name payload, c.get? name = some payload →
    oneRecord c name = ⟨200, some "application/json", payload⟩
  absent : ∀ name, c.get? name = none → (oneRecord c name).status = 404
  /-- All entries are shown if each of them is a document. -/
  listed : (∃ d, allRecords c = .ok d) ↔
    ∀ name payload, c.get? name = some payload → (Json.readBytes payload).isSome = true
  /-- The names of the entries stand once each, in ascending order, with what the other view shows
  for them. -/
  members : ∀ d, allRecords c = .ok d → ∃ members, d = .map members ∧
    members.map (·.1) = c.names ∧ c.names.Pairwise (· < ·) ∧
    ∀ name ∈ c.names, ∃ shown, d.get? name = some shown ∧
      (Json.readBytes (oneRecord c name).body).map Document.sorted = some shown

theorem oneRecord_of_get? {c : Cache} {name : String} {payload : ByteArray}
    (h : c.get? name = some payload) :
    oneRecord c name = ⟨200, some "application/json", payload⟩ := by
  unfold oneRecord
  rw [h]

/-- The two views agree on every cache. -/
theorem agree (c : Cache) : Agree c where
  stored _ _ := oneRecord_of_get?
  absent name h := by
    unfold oneRecord
    rw [h]
    rfl
  listed := by
    have hcollect : (∃ d, allRecords c = .ok d) ↔ ∃ members, collect c.snapshot = .ok members := by
      unfold allRecords
      cases collect c.snapshot with
      | error f =>
          constructor <;>
          · rintro ⟨_, h⟩
            cases h
      | ok members => exact ⟨fun _ => ⟨members, rfl⟩, fun _ => ⟨.map members, rfl⟩⟩
    rw [hcollect, exists_collect_iff]
    constructor
    · intro h name payload hget
      exact h (name, payload) (Catalog.mem_entries.2 hget)
    · rintro h ⟨name, payload⟩ hentry
      exact h name payload (Catalog.mem_entries.1 hentry)
  members d h := by
    unfold allRecords at h
    cases hcollect : collect c.snapshot with
    | error f =>
        rw [hcollect] at h
        cases h
    | ok members =>
        rw [hcollect] at h
        obtain rfl := Except.ok.inj h
        have hshown := collect_eq_ok_iff.1 hcollect
        have hnames : members.map (·.1) = c.names := names_of_shown hshown
        have hascending : c.names.Pairwise (· < ·) := c.records.names_ascending
        refine ⟨members, rfl, hnames, hascending, ?_⟩
        intro name hname
        obtain ⟨⟨_, payload⟩, hentry, rfl⟩ := List.mem_map.1 hname
        obtain ⟨⟨_, shown⟩, hmember, rfl, hread⟩ := exists_shown hshown hentry
        have hnodup : (members.map (·.1)).Nodup := by
          rw [hnames]
          exact hascending.imp ne_of_lt
        refine ⟨shown, Document.member?_of_mem hnodup hmember, ?_⟩
        rw [oneRecord_of_get? (Catalog.mem_entries.1 hentry)]
        exact hread

end HomeEnergy.StatusPage
