import HomeEnergy.Document.Json.Reader
import HomeEnergy.Proofs.Decimal.Digits

/-!
# Numerals in documents

A numeral in JSON text is a sign, digits, and perhaps a point with more digits and an exponent. Each
part is taken off as a whole when something else follows it.

## Main results

* `Json.unsigned_whole`, `Json.unsigned_pointed` — the digits of a numeral.
* `Json.ending_stop`, `Json.ending_exponent` — what follows its digits.
-/

namespace HomeEnergy.Json

/-- The sign of a numeral. -/
def minus (negative : Bool) : List Char := if negative then ['-'] else []

/-- Digits that a numeral may start with: at least one, and no needless zero in front. -/
structure Leads (whole : List Char) : Prop where
  run : IsRun whole
  ne_nil : whole ≠ []
  zero : whole.head? = some '0' → whole = ['0']

/-- What comes behind a value: nothing, the next value, or the end of a list or map. -/
def Stops (text : List Char) : Prop := ∀ c ∈ text.head?, c = ',' ∨ c = ']' ∨ c = '\x7d'

theorem Stops.head_ne {text : List Char} (h : Stops text) {c : Char}
    (hc : c ≠ ',' ∧ c ≠ ']' ∧ c ≠ '\x7d') : text.head? ≠ some c := by
  intro heq
  rcases h c heq with rfl | rfl | rfl
  · exact hc.1 rfl
  · exact hc.2.1 rfl
  · exact hc.2.2 rfl

theorem Stops.noDigit {text : List Char} (h : Stops text) : NoDigit text := by
  intro c hc
  rcases h c hc with rfl | rfl | rfl <;> rfl

/-- The end of a numeral behind its digits: an exponent, if there is one. -/
def ending (negative : Bool) (whole fraction : List Char) (pointed : Bool) (text : List Char) :
    Option (Numeral × Bool × List Char) :=
  match text with
  | e :: more =>
    if e = 'e' ∨ e = 'E' then
      let (minus, more) := takeSign more
      let (digits, rest) := takeDigits more
      if digits = [] then none
      else
        let n : Int := Decimal.value digits
        some (⟨negative, whole, fraction, if minus then -n else n⟩, false, rest)
    else some (⟨negative, whole, fraction, 0⟩, !pointed, text)
  | [] => some (⟨negative, whole, fraction, 0⟩, !pointed, text)

/-- A numeral behind its sign. -/
def unsigned (negative : Bool) (text : List Char) : Option (Numeral × Bool × List Char) :=
  let (whole, rest) := takeDigits text
  if whole = [] ∨ (whole.head? = some '0' ∧ whole ≠ ['0']) then none
  else
    let (fraction, pointed, rest) := match rest with
      | '.' :: more => ((takeDigits more).1, true, (takeDigits more).2)
      | _ => ([], false, rest)
    if pointed ∧ fraction = [] then none else ending negative whole fraction pointed rest

variable {negative pointed : Bool} {whole fraction text : List Char}

theorem numeral_plain (h : text.head? ≠ some '-') : numeral text = unsigned false text := by
  unfold numeral
  split
  rename_i heq
  split at heq
  · exact absurd rfl h
  · cases heq
    rfl

/-- What can be read behind a sign can be read with it. -/
theorem numeral_of_unsigned {reading : Numeral × Bool × List Char}
    (h : unsigned negative text = some reading) :
    numeral (minus negative ++ text) = some reading := by
  cases negative
  · refine (numeral_plain fun hminus => ?_).trans h
    obtain ⟨rest, rfl⟩ := List.head?_eq_some_iff.1 hminus
    cases h
  · exact h

theorem Leads.not_needless (h : Leads whole) :
    ¬ (whole = [] ∨ (whole.head? = some '0' ∧ whole ≠ ['0'])) := by
  rintro (hnil | ⟨hzero, hne⟩)
  · exact h.ne_nil hnil
  · exact hne (h.zero hzero)

/-- A numeral of digits only, perhaps with an exponent. -/
theorem unsigned_whole (h : Leads whole) (ht : NoDigit text) (hp : text.head? ≠ some '.') :
    unsigned negative (whole ++ text) = ending negative whole [] false text := by
  have hmatch : (match text with
      | '.' :: more => ((takeDigits more).1, true, (takeDigits more).2)
      | _ => ([], false, text)) = ([], false, text) := by
    split
    · exact absurd rfl hp
    · rfl
  unfold unsigned
  rw [takeDigits_of_run h.run ht]
  dsimp only
  rw [if_neg h.not_needless, hmatch]
  rfl

/-- A numeral with a point. -/
theorem unsigned_pointed (h : Leads whole) (hf : IsRun fraction) (hne : fraction ≠ [])
    (ht : NoDigit text) :
    unsigned negative (whole ++ '.' :: (fraction ++ text))
      = ending negative whole fraction true text := by
  have hpoint : NoDigit ('.' :: (fraction ++ text)) := by
    rintro c ⟨⟩
    rfl
  unfold unsigned
  rw [takeDigits_of_run h.run hpoint]
  dsimp only
  rw [if_neg h.not_needless]
  show (if true = true ∧ (takeDigits (fraction ++ text)).1 = [] then none
    else ending negative whole (takeDigits (fraction ++ text)).1 true
      (takeDigits (fraction ++ text)).2) = _
  rw [takeDigits_of_run hf ht]
  exact if_neg fun hnil => hne hnil.2

theorem ending_stop (h : Stops text) :
    ending negative whole fraction pointed text
      = some (⟨negative, whole, fraction, 0⟩, !pointed, text) := by
  cases text with
  | nil => rfl
  | cons c rest =>
      have hc : ¬ (c = 'e' ∨ c = 'E') := by
        rintro (rfl | rfl)
        · exact h.head_ne (c := 'e') (by decide) rfl
        · exact h.head_ne (c := 'E') (by decide) rfl
      exact if_neg hc

/-- The text of a whole number is its digits, with a sign before them if it is negative. -/
theorem toList_toString_int (n : Int) :
    (toString n).toList = minus (n < 0) ++ Nat.toDigits 10 n.natAbs := by
  rw [Int.toString_eq_repr, Int.repr_eq_if]
  split
  · rename_i hn
    rw [Nat.toList_repr, show n.toNat = n.natAbs by omega]
    simp [minus, Int.not_lt.2 hn]
  · rename_i hn
    rw [String.toList_append, Nat.toList_repr, show (-n).toNat = n.natAbs by omega]
    simp [minus, Int.not_le.1 hn]

/-- What starts with a digit does not start with a sign. -/
theorem takeSign_of_digit (h : ∃ c ∈ text.head?, c.isDigit = true) :
    takeSign text = (false, text) := by
  obtain ⟨c, hc, hdigit⟩ := h
  unfold takeSign
  split
  · cases hc
    cases hdigit
  · cases hc
    cases hdigit
  · rfl

theorem head_toDigits_append (n : Nat) (text : List Char) :
    ∃ c ∈ (Nat.toDigits 10 n ++ text).head?, c.isDigit = true := by
  obtain ⟨c, rest, hdigits⟩ := List.exists_cons_of_ne_nil (@Nat.toDigits_ne_nil n 10)
  rw [hdigits]
  exact ⟨c, rfl, Decimal.isRun_toDigits n c (hdigits ▸ List.mem_cons_self)⟩

theorem ending_exponent (n : Int) (ht : NoDigit text) :
    ending negative whole fraction pointed ('e' :: ((toString n).toList ++ text))
      = some (⟨negative, whole, fraction, n⟩, false, text) := by
  have hsign : takeSign (minus (n < 0) ++ (Nat.toDigits 10 n.natAbs ++ text))
      = (decide (n < 0), Nat.toDigits 10 n.natAbs ++ text) := by
    by_cases hn : n < 0
    · simp only [hn, decide_true]
      rfl
    · simp only [hn, decide_false]
      exact takeSign_of_digit (head_toDigits_append _ _)
  have hvalue : (if decide (n < 0) = true then -(n.natAbs : Int) else n.natAbs) = n := by
    split <;> simp only [decide_eq_true_eq] at * <;> omega
  rw [toList_toString_int, List.append_assoc]
  unfold ending
  dsimp only
  rw [if_pos (.inl rfl), hsign]
  dsimp only
  rw [takeDigits_of_run (Decimal.isRun_toDigits _) ht]
  dsimp only
  rw [if_neg Nat.toDigits_ne_nil, Decimal.value_toDigits, hvalue]

end HomeEnergy.Json
