import HomeEnergy.Catalog
import HomeEnergy.Document
import Mathlib

/-!
# The normal form of documents

In the normal form of a document each key stands once and keys ascend. Looking something up in it
finds the normal form of what stands in the document itself.

## Main results

* `Document.ascending_sortedMembers` — the keys of a map ascend.
* `Document.at?_sorted` — what is found at the end of a path.
-/

namespace HomeEnergy.Document

variable {key k : String} {d : Document} {members before : List (String × Document)}

/-! ## Members -/

theorem member?_cons : member? key ((k, d) :: members) =
    (member? key members).or (if k = key then some d else none) := by
  unfold member?
  rw [List.reverse_cons, List.find?_append, Option.map_or]
  congr 1
  by_cases hk : k = key <;> simp [hk]

theorem member?_isSome : (member? key members).isSome = true ↔ key ∈ members.map (·.1) := by
  induction members with
  | nil => simp
  | cons head rest ih =>
      obtain ⟨k, d⟩ := head
      rw [member?_cons, Option.isSome_or, Bool.or_eq_true, ih, List.map_cons, List.mem_cons,
        or_comm]
      rcases eq_or_ne k key with rfl | hk
      · simp
      · simp [hk, hk.symm]

theorem mem_of_member? (h : member? key members = some d) : (key, d) ∈ members := by
  unfold member? at h
  obtain ⟨⟨k, e⟩, hfind, rfl⟩ := Option.map_eq_some_iff.1 h
  have hk : k = key := by simpa using List.find?_some hfind
  exact hk ▸ List.mem_reverse.1 (List.mem_of_find?_eq_some hfind)

/-- Where no key stands twice, each member is found under its key. -/
theorem member?_of_mem (h : (members.map (·.1)).Nodup) (hm : (key, d) ∈ members) :
    member? key members = some d := by
  induction members with
  | nil => cases hm
  | cons head rest ih =>
      rw [List.map_cons, List.nodup_cons] at h
      rw [member?_cons]
      by_cases hhead : (key, d) = head
      · subst hhead
        have habsent : member? key rest = none := by
          rw [← Option.not_isSome_iff_eq_none, member?_isSome]
          exact h.1
        simp [habsent]
      · have hrest : (key, d) ∈ rest := by simpa [hhead] using hm
        rw [ih h.2 hrest, Option.some_or]

theorem at?_pair (d : Document) (key k : String) :
    d.at? [key, k] = (d.get? key).bind (·.get? k) := by
  unfold at?
  cases d.get? key with
  | none => rfl
  | some e =>
      show (e.get? k).bind some = e.get? k
      cases e.get? k <;> rfl

/-! ## Insertion -/

theorem insertMember_eq : insertMember key d members = Catalog.insertEntry key d members := by
  induction members with
  | nil => rfl
  | cons head rest ih =>
      obtain ⟨k, e⟩ := head
      simp only [insertMember, Catalog.insertEntry, ih]

/-- Among ascending keys the inserted member is found, and every other one as before. -/
theorem member?_insertMember (h : (members.map (·.1)).Pairwise (· < ·)) :
    member? key (insertMember k d members) = if k = key then some d else member? key members := by
  induction members with
  | nil => simp [insertMember, member?_cons]
  | cons head rest ih =>
      obtain ⟨n, e⟩ := head
      rw [List.map_cons, List.pairwise_cons] at h
      have habsent : ∀ m, m ≤ n → member? m rest = none := fun m hm => by
        rw [← Option.not_isSome_iff_eq_none, member?_isSome]
        exact fun hmem => absurd (h.1 m hmem) (not_lt.2 hm)
      unfold insertMember
      split
      · next hlt =>
        rw [member?_cons, member?_cons]
        by_cases hk : k = key
        · subst hk
          simp [habsent _ hlt.le, hlt.ne']
        · simp [hk]
      · split
        · next heq =>
          subst heq
          rw [member?_cons, member?_cons]
          by_cases hk : k = key
          · subst hk
            simp [habsent _ le_rfl]
          · simp [hk]
        · next hne =>
          rw [member?_cons, ih h.2, member?_cons]
          by_cases hk : k = key
          · subst hk
            simp
          · simp [hk]

/-! ## Normal forms -/

/-- The keys of a map in normal form ascend. -/
theorem ascending_sortedMembers (h : (before.map (·.1)).Pairwise (· < ·)) :
    ((sortedMembers before members).map (·.1)).Pairwise (· < ·) := by
  induction members generalizing before with
  | nil => exact h
  | cons head rest ih =>
      obtain ⟨k, d⟩ := head
      unfold sortedMembers
      refine ih ?_
      rw [insertMember_eq]
      exact Catalog.ascending_insertEntry h

theorem ascending_keys (members : List (String × Document)) :
    ((sortedMembers [] members).map (·.1)).Pairwise (· < ·) :=
  ascending_sortedMembers List.Pairwise.nil

theorem member?_sortedMembers (h : (before.map (·.1)).Pairwise (· < ·)) :
    member? key (sortedMembers before members) =
      ((member? key members).map sorted).or (member? key before) := by
  induction members generalizing before with
  | nil => rfl
  | cons head rest ih =>
      obtain ⟨k, d⟩ := head
      unfold sortedMembers
      rw [ih (by rw [insertMember_eq]; exact Catalog.ascending_insertEntry h),
        member?_insertMember h, member?_cons, Option.map_or, Option.or_assoc]
      by_cases hk : k = key <;> simp [hk]

/-- Looking up a key in the normal form finds the normal form of its last writing. -/
theorem get?_sorted (d : Document) : d.sorted.get? key = (d.get? key).map sorted := by
  cases d with
  | map members =>
      show member? key (sortedMembers [] members) = (member? key members).map sorted
      rw [member?_sortedMembers List.Pairwise.nil, member?_nil, Option.or_none]
  | list items =>
      show (list (sortedItems items)).get? key = _
      rfl
  | _ => rfl

/-- The normal form has the same paths. -/
theorem at?_sorted (d : Document) (path : List String) :
    d.sorted.at? path = (d.at? path).map sorted := by
  induction path generalizing d with
  | nil => rfl
  | cons key path ih =>
      unfold at?
      rw [get?_sorted]
      cases d.get? key with
      | none => rfl
      | some e => exact ih e

end HomeEnergy.Document
