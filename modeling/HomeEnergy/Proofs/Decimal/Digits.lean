import HomeEnergy.Decimal.Numeral
import Mathlib.Algebra.Group.Nat.Defs

/-!
# Runs of digits

Whole numbers are written without needless zeros. What is written is a run of digits, and the value
of the run is the number. A run of digits in front of something else is taken off as a whole.

## Main results

* `Decimal.value_append` — the value of two runs, one behind the other.
* `Decimal.value_toDigits` — a number reads back as itself.
* `takeDigits_of_run` — where a run of digits ends.
-/

namespace HomeEnergy

/-- Only digits. -/
abbrev IsRun (ds : List Char) : Prop := ∀ c ∈ ds, c.isDigit = true

/-- A text that does not go on with a digit. -/
abbrev NoDigit (text : List Char) : Prop := ∀ c ∈ text.head?, c.isDigit = false

namespace Decimal

theorem value_eq (ds : List Char) : value ds = Nat.ofDigitChars 10 ds 0 :=
  Nat.ofDigitChars_eq_foldl.symm

theorem value_append (ds es : List Char) :
    value (ds ++ es) = value ds * 10 ^ es.length + value es := by
  simp only [value_eq]
  rw [Nat.ofDigitChars_append, Nat.ofDigitChars_eq_ofDigitChars_zero, Nat.mul_comm]

/-- The first digit moves over to the number in front. -/
theorem value_cons (c : Char) (ds : List Char) (n : Nat) :
    n * 10 ^ (c :: ds).length + value (c :: ds)
      = (10 * n + (c.toNat - '0'.toNat)) * 10 ^ ds.length + value ds := by
  simp only [value_eq, Nat.mul_comm _ (10 ^ _)]
  rw [← Nat.ofDigitChars_eq_ofDigitChars_zero, ← Nat.ofDigitChars_eq_ofDigitChars_zero,
    Nat.ofDigitChars_cons]

theorem value_zeros (n : Nat) : value (List.replicate n '0') = 0 := by
  rw [value_eq, Nat.ofDigitChars_replicate_zero, Nat.mul_zero]

theorem value_lt {ds : List Char} (h : IsRun ds) : value ds < 10 ^ ds.length := by
  induction ds with
  | nil => exact Nat.one_pos
  | cons c rest ih =>
      have hc : c.toNat ≤ 57 := (Char.isDigit_iff_toNat.1 (h c List.mem_cons_self)).2
      have hrest := ih fun d hd => h d (List.mem_cons_of_mem c hd)
      have hvalue := value_cons c rest 0
      rw [Nat.zero_mul, Nat.zero_add, Nat.mul_zero, Nat.zero_add] at hvalue
      calc value (c :: rest) = (c.toNat - 48) * 10 ^ rest.length + value rest := hvalue
        _ ≤ 9 * 10 ^ rest.length + value rest :=
          Nat.add_le_add_right (Nat.mul_le_mul_right _ (by omega)) _
        _ < 9 * 10 ^ rest.length + 10 ^ rest.length := Nat.add_lt_add_left hrest _
        _ = 10 ^ (c :: rest).length := by rw [List.length_cons, Nat.pow_succ]; omega

@[simp] theorem toList_toString (n : Nat) : (toString n).toList = Nat.toDigits 10 n := by
  rw [Nat.toString_eq_ofList_toDigits, String.toList_ofList]

theorem isRun_toDigits (n : Nat) : IsRun (Nat.toDigits 10 n) :=
  fun _ => Nat.isDigit_of_mem_toDigits (by decide) (by decide)

@[simp] theorem value_toDigits (n : Nat) : value (Nat.toDigits 10 n) = n := by
  rw [value_eq, Nat.ofDigitChars_ten_toDigits]

/-- A number does not start with a zero, unless it is zero. -/
theorem head_toDigits {n : Nat} (h : n ≠ 0) : (Nat.toDigits 10 n).head? ≠ some '0' := by
  induction n using Nat.strongRecOn with
  | ind n ih =>
      rcases Nat.lt_or_ge n 10 with hlt | hge
      · rw [Nat.toDigits_of_lt_base hlt, List.head?_cons]
        exact fun heq => h (Nat.digitChar_eq_zero.1 (Option.some.inj heq))
      · have hquotient : n / 10 ≠ 0 := by omega
        have hhead := ih (n / 10) (by omega) hquotient
        obtain ⟨c, rest, hdigits⟩ := List.exists_cons_of_ne_nil (@Nat.toDigits_ne_nil (n / 10) 10)
        rw [Nat.toDigits_of_base_le (by decide) hge, hdigits]
        rw [hdigits] at hhead
        exact hhead

end Decimal

/-- A run of digits is taken off as a whole. -/
theorem takeDigits_of_run {ds text : List Char} (h : IsRun ds) (ht : NoDigit text) :
    takeDigits (ds ++ text) = (ds, text) := by
  unfold takeDigits
  rw [List.takeWhile_append_of_pos h, List.dropWhile_append_of_pos h]
  cases text with
  | nil => simp
  | cons c rest =>
      have hc : c.isDigit = false := ht c rfl
      rw [List.takeWhile_cons_of_neg (by simp [hc]), List.dropWhile_cons_of_neg (by simp [hc]),
        List.append_nil]

end HomeEnergy
