import HomeEnergy.Proofs.Document.Normal

/-!
# Documents that differ in the order of members

Where no key of a map stands twice, the order of the members has no meaning. Two documents are
reordered (`Document.Reordered`) if at every depth the same keys stand in their maps, in whichever
order. Nothing that is looked up at the end of a path tells such documents apart.

## Main results

* `Document.Reordered.at?` — what is found at the end of a path is reordered, too.
-/

namespace HomeEnergy.Document

variable {d d' : Document}

/-- Documents that differ at most in the order in which the members of maps stand. -/
inductive Reordered : Document → Document → Prop where
  | same (d : Document) : Reordered d d
  | list {items items' : List Document} (length : items.length = items'.length)
      (values : ∀ (i : Nat) (d d' : Document), items[i]? = some d → items'[i]? = some d' →
        Reordered d d') :
      Reordered (.list items) (.list items')
  | map {members members' : List (String × Document)} (nodup : (members.map (·.1)).Nodup)
      (keys : (members.map (·.1)).Perm (members'.map (·.1)))
      (values : ∀ key d d', (key, d) ∈ members → (key, d') ∈ members' → Reordered d d') :
      Reordered (.map members) (.map members')

namespace Reordered

theorem get? (h : Reordered d d') (key : String) :
    Option.Rel Reordered (d.get? key) (d'.get? key) := by
  cases h with
  | same d =>
      cases d.get? key with
      | none => exact .none
      | some e => exact .some (.same e)
  | list => exact .none
  | map nodup keys values =>
      rename_i members members'
      show Option.Rel Reordered (member? key members) (member? key members')
      by_cases hkey : key ∈ members.map (·.1)
      · have hfound := member?_isSome.2 hkey
        have hfound' := member?_isSome.2 (keys.mem_iff.1 hkey)
        obtain ⟨e, he⟩ := Option.isSome_iff_exists.1 hfound
        obtain ⟨e', he'⟩ := Option.isSome_iff_exists.1 hfound'
        rw [he, he']
        exact .some (values key e e' (mem_of_member? he) (mem_of_member? he'))
      · have hkey' : key ∉ members'.map (·.1) := fun hmem => hkey (keys.mem_iff.2 hmem)
        rw [← member?_isSome, Option.not_isSome_iff_eq_none] at hkey hkey'
        rw [hkey, hkey']
        exact .none

/-- What is found at the end of a path. -/
theorem at? (h : Reordered d d') (path : List String) :
    Option.Rel Reordered (d.at? path) (d'.at? path) := by
  induction path generalizing d d' with
  | nil => exact .some h
  | cons key path ih =>
      unfold Document.at?
      have hkey := h.get? key
      cases hd : d.get? key with
      | none =>
          rw [hd] at hkey
          cases hd' : d'.get? key with
          | none => exact .none
          | some e' => rw [hd'] at hkey; cases hkey
      | some e =>
          rw [hd] at hkey
          cases hd' : d'.get? key with
          | none => rw [hd'] at hkey; cases hkey
          | some e' =>
              rw [hd'] at hkey
              cases hkey with
              | some he => exact ih he

theorem symm (h : Reordered d d') : Reordered d' d := by
  induction h with
  | same d => exact .same d
  | list length values ih =>
      exact .list length.symm fun i d d' hd hd' => ih i d' d hd' hd
  | map nodup keys values ih =>
      exact .map (keys.nodup_iff.1 nodup) keys.symm fun key d d' hd hd' => ih key d' d hd' hd

theorem number?_eq (h : Reordered d d') : d.number? = d'.number? := by
  cases h <;> rfl

end Reordered

end HomeEnergy.Document
