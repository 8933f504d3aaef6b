import HomeEnergy.Device.Battery
import Mathlib

/-!
# Hexadecimal digits

Which texts are read as hexadecimal numbers, and as which numbers.

## Main results

* `Battery.hex?_eq` — a text is read if it is made of digits, but for a plus in front of them, and
  their number is not too large.
* `Battery.number_lt_iff` — how large a number is tells how many digits it has, but for zeros in
  front.
* `Battery.Writes.hex?_eq` — what a number is written with is read as that number, with any zeros in
  front and with letters of either case.
-/

namespace HomeEnergy.Battery

/-! ## Single digits -/

theorem digit?_eq (c : Char) : digit? c =
    if 48 ≤ c.toNat ∧ c.toNat ≤ 57 then some (c.toNat - 48)
    else if 97 ≤ c.toNat ∧ c.toNat ≤ 102 then some (c.toNat - 87)
    else if 65 ≤ c.toNat ∧ c.toNat ≤ 70 then some (c.toNat - 55)
    else none := by
  have hdigit : c.isDigit = true ↔ 48 ≤ c.toNat ∧ c.toNat ≤ 57 := Char.isDigit_iff_toNat
  have hlower : 'a' ≤ c ∧ c ≤ 'f' ↔ 97 ≤ c.toNat ∧ c.toNat ≤ 102 := Iff.rfl
  have hupper : 'A' ≤ c ∧ c ≤ 'F' ↔ 65 ≤ c.toNat ∧ c.toNat ≤ 70 := Iff.rfl
  unfold digit?
  simp only [hdigit, hlower, hupper]
  split_ifs with h1 h2 h3
  · rfl
  · congr 1
    show c.toNat - 97 + 10 = c.toNat - 87
    omega
  · congr 1
    show c.toNat - 65 + 10 = c.toNat - 55
    omega
  · rfl

theorem digit?_isSome (c : Char) : (digit? c).isSome = c.isHexDigit := by
  have hhex : c.isHexDigit = true ↔ (48 ≤ c.toNat ∧ c.toNat ≤ 57 ∨ 97 ≤ c.toNat ∧ c.toNat ≤ 102) ∨
      65 ≤ c.toNat ∧ c.toNat ≤ 70 := by
    simp only [Char.isHexDigit, Bool.or_eq_true, Bool.and_eq_true, decide_eq_true_eq,
      Char.isDigit_iff_toNat]
    exact Iff.rfl
  rw [Bool.eq_iff_iff, hhex, digit?_eq]
  split_ifs <;> simp <;> omega

theorem toNat_le_of_isHexDigit {c : Char} (h : c.isHexDigit = true) : c.toNat ≤ 102 := by
  rw [← digit?_isSome, digit?_eq] at h
  split_ifs at h with h1 h2 h3
  · omega
  · omega
  · omega
  · cases h

theorem digit?_lt {c : Char} {n : Nat} (h : digit? c = some n) : n < 16 := by
  rw [digit?_eq] at h
  split_ifs at h <;> cases h <;> omega

theorem toNat_toLower (c : Char) :
    c.toLower.toNat = if 65 ≤ c.toNat ∧ c.toNat ≤ 90 then c.toNat + 32 else c.toNat := by
  have hupper : c.val ≥ 'A'.val ∧ c.val ≤ 'Z'.val ↔ 65 ≤ c.toNat ∧ c.toNat ≤ 90 := Iff.rfl
  unfold Char.toLower
  simp only [hupper]
  split_ifs with h
  · show (c.val.toNat + 32) % 2 ^ 32 = c.val.toNat + 32
    exact Nat.mod_eq_of_lt (Nat.lt_of_le_of_lt (Nat.add_le_add_right h.2 32) (by decide))
  · rfl

/-- A digit is worth the same in either case. -/
theorem digit?_toLower (c : Char) : digit? c.toLower = digit? c := by
  simp only [digit?_eq, toNat_toLower]
  split_ifs <;> first | omega | rfl

theorem digit?_digitChar {n : Nat} (hn : n < 16) : digit? n.digitChar = some n := by
  revert n
  decide

/-! ## Runs of digits -/

/-- The number that digits write. -/
def number (digits : List Char) : Nat := digits.foldl (fun n c => 16 * n + (digit? c).getD 0) 0

theorem number_append_singleton (digits : List Char) (c : Char) :
    number (digits ++ [c]) = 16 * number digits + (digit? c).getD 0 := by
  simp [number]

theorem number_cons (c : Char) (digits : List Char) :
    number (c :: digits) = (digit? c).getD 0 * 16 ^ digits.length + number digits := by
  induction digits using List.reverseRecOn with
  | nil => simp [number]
  | append_singleton digits d ih =>
      rw [← List.cons_append, number_append_singleton, ih, number_append_singleton,
        List.length_append, List.length_singleton, Nat.pow_succ]
      ring

theorem number_lt (digits : List Char) : number digits < 16 ^ digits.length := by
  induction digits using List.reverseRecOn with
  | nil => exact Nat.one_pos
  | append_singleton digits c ih =>
      have hdigit : (digit? c).getD 0 < 16 := by
        cases h : digit? c with
        | none => decide
        | some n => exact digit?_lt h
      rw [number_append_singleton, List.length_append, List.length_singleton, Nat.pow_succ]
      omega

/-- The digits of a number without zeros in front. -/
def significant (digits : List Char) : List Char := digits.dropWhile (· = '0')

theorem length_significant_le (digits : List Char) :
    (significant digits).length ≤ digits.length :=
  (List.dropWhile_sublist _).length_le

/-- Every digit but zero is worth something. -/
theorem digit?_pos {c : Char} (hc : c.isHexDigit = true) (hne : c ≠ '0') :
    1 ≤ (digit? c).getD 0 := by
  obtain ⟨n, hn⟩ := Option.isSome_iff_exists.1 ((digit?_isSome c).trans hc)
  have hzero : c.toNat ≠ 48 := fun h => hne (Char.toNat_inj.1 h)
  rw [hn, Option.getD_some]
  rw [digit?_eq] at hn
  split_ifs at hn <;> cases hn <;> omega

/-- The size of a number tells how many digits it has but for zeros in front. -/
theorem number_lt_iff {digits : List Char} (h : digits.all Char.isHexDigit = true) (k : Nat) :
    number digits < 16 ^ k ↔ (significant digits).length ≤ k := by
  induction digits with
  | nil => exact iff_of_true (Nat.pow_pos (by decide)) (Nat.zero_le k)
  | cons c digits ih =>
      rw [List.all_cons, Bool.and_eq_true] at h
      by_cases hc : c = '0'
      · have hvalue : number (c :: digits) = number digits := by
          rw [number_cons, hc]
          show 0 * _ + number digits = _
          rw [Nat.zero_mul, Nat.zero_add]
        have hdrop : significant (c :: digits) = significant digits :=
          List.dropWhile_cons_of_pos (by simpa using hc)
        rw [hvalue, hdrop, ih h.2]
      · have hdrop : significant (c :: digits) = c :: digits :=
          List.dropWhile_cons_of_neg (by simpa using hc)
        have hlow : 16 ^ digits.length ≤ number (c :: digits) := by
          rw [number_cons]
          exact (Nat.le_mul_of_pos_left _ (digit?_pos h.1 hc)).trans (Nat.le_add_right _ _)
        rw [hdrop]
        constructor
        · intro hlt
          exact (Nat.pow_lt_pow_iff_right (by decide)).1 (hlow.trans_lt hlt)
        · intro hle
          exact (number_lt (c :: digits)).trans_le (Nat.pow_le_pow_right (by decide) hle)

/-! ## Texts -/

/-- There is no plus among digits. -/
theorem afterPlus_of_all {digits : List Char} (h : digits.all Char.isHexDigit = true) :
    afterPlus digits = digits := by
  unfold afterPlus
  split
  · cases h
  · rfl

theorem length_afterPlus_le (text : List Char) : (afterPlus text).length ≤ text.length := by
  unfold afterPlus
  split
  · exact Nat.le_succ _
  · exact Nat.le_refl _

theorem mem_afterPlus {c : Char} {text : List Char} (h : c ∈ text) :
    c = '+' ∨ c ∈ afterPlus text := by
  unfold afterPlus
  split
  · exact List.mem_cons.1 h
  · exact .inr h

theorem foldlM_digits (digits : List Char) (n : Nat) :
    digits.foldlM (fun n c => (digit? c).map (16 * n + ·)) n =
      if digits.all Char.isHexDigit then
        some (digits.foldl (fun n c => 16 * n + (digit? c).getD 0) n)
      else none := by
  induction digits generalizing n with
  | nil => rfl
  | cons c digits ih =>
      rw [List.foldlM_cons, List.all_cons, ← digit?_isSome]
      cases hc : digit? c with
      | none => rfl
      | some d =>
          rw [List.foldl_cons, hc]
          exact ih _

/-- A text is read as a number if it has digits and nothing else behind an optional plus, and the
number is not too large. -/
theorem hex?_eq (bits : Nat) (text : List Char) : hex? bits text =
    if afterPlus text ≠ [] ∧ (afterPlus text).all Char.isHexDigit = true ∧
      number (afterPlus text) < 2 ^ bits then some (number (afterPlus text)) else none := by
  unfold hex?
  dsimp only
  rw [foldlM_digits]
  generalize afterPlus text = digits
  by_cases hempty : digits = []
  · rw [if_pos hempty, if_neg fun h => h.1 hempty]
  · rw [if_neg hempty]
    by_cases hall : digits.all Char.isHexDigit = true
    · rw [if_pos hall]
      by_cases hlt : number digits < 2 ^ bits
      · rw [if_pos ⟨hempty, hall, hlt⟩]
        exact if_pos hlt
      · rw [if_neg fun h => hlt h.2.2]
        exact if_neg hlt
    · rw [if_neg hall, if_neg fun h => hall h.2.1]
      rfl

/-! ## Writing a number -/

/-- Digits of either case that write a number with some zeros in front. -/
def Writes (digits : List Char) (zeros n : Nat) : Prop :=
  digits.map Char.toLower = List.replicate zeros '0' ++ Nat.toDigits 16 n

theorem number_toLower (digits : List Char) : number (digits.map Char.toLower) = number digits := by
  unfold number
  rw [List.foldl_map]
  simp only [digit?_toLower]

theorem number_zeros (zeros : Nat) (digits : List Char) :
    number (List.replicate zeros '0' ++ digits) = number digits := by
  induction zeros with
  | zero => rfl
  | succ zeros ih =>
      rw [List.replicate_succ, List.cons_append, number_cons, ih]
      show 0 * _ + number digits = _
      rw [Nat.zero_mul, Nat.zero_add]

theorem number_toDigits (n : Nat) : number (Nat.toDigits 16 n) = n := by
  induction n using Nat.strongRecOn with
  | ind n ih =>
      rcases Nat.lt_or_ge n 16 with hn | hn
      · rw [Nat.toDigits_of_lt_base hn]
        show 16 * 0 + (digit? n.digitChar).getD 0 = n
        rw [digit?_digitChar hn]
        exact Nat.zero_add n
      · rw [Nat.toDigits_of_base_le (by decide) hn, number_append_singleton, ih (n / 16) (by omega),
          digit?_digitChar (Nat.mod_lt n (by decide)), Option.getD_some]
        omega

theorem all_toDigits (n : Nat) : (Nat.toDigits 16 n).all Char.isHexDigit = true := by
  induction n using Nat.strongRecOn with
  | ind n ih =>
      have hdigit {k : Nat} (hk : k < 16) : k.digitChar.isHexDigit = true := by
        rw [← digit?_isSome, digit?_digitChar hk]
        rfl
      rcases Nat.lt_or_ge n 16 with hn | hn
      · rw [Nat.toDigits_of_lt_base hn, List.all_cons, hdigit hn]
        rfl
      · rw [Nat.toDigits_of_base_le (by decide) hn, List.all_append, ih (n / 16) (by omega),
          List.all_cons, hdigit (Nat.mod_lt n (by decide))]
        rfl

section

variable {digits : List Char} {zeros n : Nat} (h : Writes digits zeros n)

include h

theorem Writes.number_eq : number digits = n := by
  rw [← number_toLower, h, number_zeros, number_toDigits]

theorem Writes.all : digits.all Char.isHexDigit = true := by
  have hlower : (digits.map Char.toLower).all Char.isHexDigit = true := by
    rw [h, List.all_append, all_toDigits, Bool.and_true, List.all_eq_true]
    intro c hc
    rw [List.eq_of_mem_replicate hc]
    rfl
  rw [List.all_map] at hlower
  rw [List.all_eq_true] at hlower ⊢
  intro c hc
  have hlower' := hlower c hc
  rwa [Function.comp_apply, ← digit?_isSome, digit?_toLower, digit?_isSome] at hlower'

theorem Writes.length_eq : digits.length = zeros + (Nat.toDigits 16 n).length := by
  rw [← List.length_map (f := Char.toLower), h, List.length_append, List.length_replicate]

theorem Writes.ne_nil : digits ≠ [] := by
  rintro rfl
  have hlength := h.length_eq
  have hpos : 0 < (Nat.toDigits 16 n).length := List.length_pos_iff.2 Nat.toDigits_ne_nil
  rw [List.length_nil] at hlength
  omega

/-- What a number is written with is read as that number. -/
theorem Writes.hex?_eq {bits : Nat} (hn : n < 2 ^ bits) : hex? bits digits = some n := by
  rw [Battery.hex?_eq, afterPlus_of_all h.all, h.number_eq, if_pos ⟨h.ne_nil, h.all, hn⟩]

end

end HomeEnergy.Battery
