import HomeEnergy.Proofs.Decimal.Literal
import Mathlib

/-!
# Texts that are a whole number

A whole number is written as an optional sign and digits. `readInteger` reads these texts, as long
as the number fits, and no others.

## Main results

* `Literal.readInteger_eq_ok_iff` — the whole numbers of so many bits in two's complement.
-/

namespace HomeEnergy.Literal

variable {text digits : List Char} {most : Nat} {beyond : NumberFault}

/-- A whole number. -/
inductive Whole : List Char → Int → Prop where
  | mk {sign ds : List Char} {negative : Bool} (signed : Sign sign negative) (run : IsRun ds)
      (ne_nil : ds ≠ []) :
      Whole (sign ++ ds) (if negative then -(Decimal.value ds : Int) else (Decimal.value ds : Int))

/-- Digits are read on to a number as long as it does not become too large. -/
theorem readDigits_eq_ok_iff {n m : Nat} (hn : n ≤ most) :
    readDigits most beyond n digits = .ok m ↔
      IsRun digits ∧ m = n * 10 ^ digits.length + Decimal.value digits ∧ m ≤ most := by
  induction digits generalizing n with
  | nil =>
      rw [readDigits, Except.ok.injEq]
      constructor
      · rintro rfl
        exact ⟨fun c hc => absurd hc List.not_mem_nil, by simp, hn⟩
      · rintro ⟨-, hm, -⟩
        simpa using hm.symm
  | cons c rest ih =>
      rw [Decimal.value_cons, readDigits]
      by_cases hc : c.isDigit = true
      · by_cases hnext : 10 * n + (c.toNat - '0'.toNat) ≤ most
        · simp only [hc, hnext, if_true, ih hnext, IsRun, List.forall_mem_cons, true_and]
        · simp only [hc, hnext, if_true, if_false, false_iff, reduceCtorEq]
          rintro ⟨-, hm, hle⟩
          -- What is left of the digits does not make the number smaller.
          have hgrow := Nat.le_mul_of_pos_right (10 * n + (c.toNat - '0'.toNat))
            (Nat.pow_pos (n := rest.length) (show 0 < 10 by decide))
          omega
      · simp only [hc, false_iff, reduceCtorEq, if_false]
        rintro ⟨hrun, -⟩
        exact hc (hrun c List.mem_cons_self)

/-- What is behind the sign of a whole number. -/
theorem whole_iff {n : Int} :
    Whole text n ↔ IsRun (takeSign text).2 ∧ (takeSign text).2 ≠ [] ∧
      n = if (takeSign text).1 then -(Decimal.value (takeSign text).2 : Int)
        else (Decimal.value (takeSign text).2 : Int) := by
  constructor
  · rintro ⟨signed, run, ne_nil⟩
    rw [takeSign_sign signed (unsigned_of_run run)]
    exact ⟨run, ne_nil, rfl⟩
  · rintro ⟨run, ne_nil, rfl⟩
    obtain ⟨sign, signed, htext⟩ := exists_sign text
    have hwhole := Whole.mk signed run ne_nil
    rwa [← htext] at hwhole

/-- The digits of a whole number are read from zero on. -/
theorem map_readDigits_eq_ok_iff {f : Nat → Int} {n : Int} :
    (readDigits most beyond 0 digits).map f = .ok n ↔
      IsRun digits ∧ n = f (Decimal.value digits) ∧ Decimal.value digits ≤ most := by
  have hread : ∀ m, readDigits most beyond 0 digits = .ok m ↔
      IsRun digits ∧ m = Decimal.value digits ∧ m ≤ most := by
    intro m
    rw [readDigits_eq_ok_iff (Nat.zero_le most), Nat.zero_mul, Nat.zero_add]
  constructor
  · intro h
    cases hm : readDigits most beyond 0 digits with
    | error e => rw [hm] at h; cases h
    | ok m =>
        rw [hm] at h
        obtain ⟨hrun, rfl, hle⟩ := (hread m).1 hm
        exact ⟨hrun, (Except.ok.inj h).symm, hle⟩
  · rintro ⟨hrun, rfl, hle⟩
    rw [(hread _).2 ⟨hrun, rfl, hle⟩]
    rfl

/-- Whole numbers of so many bits in two's complement. -/
theorem readInteger_eq_ok_iff {bits : Nat} {n : Int} :
    readInteger bits text = .ok n ↔
      Whole text n ∧ -(2 ^ (bits - 1)) ≤ n ∧ n < 2 ^ (bits - 1) := by
  have hpow : ((Nat.pow 2 (bits - 1) : Nat) : Int) = 2 ^ (bits - 1) := Int.natCast_pow 2 (bits - 1)
  have hpos : 0 < Nat.pow 2 (bits - 1) := Nat.two_pow_pos _
  rw [whole_iff]
  unfold readInteger
  by_cases hnil : text = []
  · subst hnil
    simp [takeSign]
  · rw [if_neg hnil]
    cases hsign : takeSign text with
    | mk negative ds =>
        cases ds with
        | nil => cases negative <;> simp
        | cons c ds =>
            cases negative with
            | true =>
                -- The number is made an integer before its sign is changed.
                have hmap : ∀ read : Except NumberFault Nat,
                    (read >>= fun m => pure (m : Int)).map (fun m : Int => -m) =
                      read.map fun m : Nat => -(m : Int) := by
                  intro read
                  cases read <;> rfl
                refine Iff.trans (Eq.to_iff (congrArg (· = .ok n) (hmap _))) ?_
                rw [map_readDigits_eq_ok_iff]
                simp only [if_true, ne_eq, reduceCtorEq, not_false_eq_true, true_and, and_assoc]
                refine and_congr_right fun _ => and_congr_right fun hn => ?_
                omega
            | false =>
                refine Iff.trans map_readDigits_eq_ok_iff ?_
                simp only [if_false, ne_eq, reduceCtorEq, not_false_eq_true, true_and,
                  Bool.false_eq_true, Int.ofNat_eq_natCast, and_assoc]
                refine and_congr_right fun _ => and_congr_right fun hn => ?_
                omega

end HomeEnergy.Literal
