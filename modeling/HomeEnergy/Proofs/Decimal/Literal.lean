import HomeEnergy.Proofs.Decimal.Digits
import Mathlib.Logic.Basic

/-!
# Texts that are a number

A text is a number if it is made of an optional sign, digits with an optional point, and an optional
power of ten, or of an optional sign and one of three words in any letter case. That is a grammar;
`readFloat` is a reader that takes a text off piece by piece. It reads the texts of the grammar and
no others, and each as the number that it is made of.

## Main results

* `Literal.exponent?_eq_some_iff`, `Literal.numeral?_eq_some_iff` — the pieces of a numeral.
* `Literal.readFloat_eq_ok_iff` — whole texts.
-/

namespace HomeEnergy.Literal

/-! ## The grammar -/

/-- An optional sign. A number with a minus is negative. -/
inductive Sign : List Char → Bool → Prop where
  | absent : Sign [] false
  | plus : Sign ['+'] false
  | minus : Sign ['-'] true

/-- Digits, with an optional point among or around them; the digits before and behind it. -/
inductive Digits : List Char → List Char → List Char → Prop where
  | whole {ds : List Char} (run : IsRun ds) (ne_nil : ds ≠ []) : Digits ds ds []
  | pointed {whole fraction : List Char} (run : IsRun whole) (run' : IsRun fraction)
      (some_digit : whole ≠ [] ∨ fraction ≠ []) :
      Digits (whole ++ '.' :: fraction) whole fraction

/-- An optional power of ten. -/
inductive Exponent : List Char → Int → Prop where
  | absent : Exponent [] 0
  | power {mark : Char} {sign ds : List Char} {negative : Bool} (marked : mark = 'e' ∨ mark = 'E')
      (signed : Sign sign negative) (run : IsRun ds) (ne_nil : ds ≠ []) :
      Exponent (mark :: (sign ++ ds))
        (if negative then -(Decimal.value ds : Int) else (Decimal.value ds : Int))

/-- A numeral. -/
inductive Number : List Char → Numeral → Prop where
  | mk {sign digits tail whole fraction : List Char} {negative : Bool} {k : Int}
      (signed : Sign sign negative) (body : Digits digits whole fraction)
      (power : Exponent tail k) :
      Number (sign ++ (digits ++ tail)) ⟨negative, whole, fraction, k⟩

/-- A double: a numeral stands for the double that is its exact reading. -/
inductive Double : List Char → Float → Prop where
  | number {text : List Char} {n : Numeral} (numeral : Number text n) : Double text n.exact
  | infinite {sign word : List Char} {negative : Bool} (signed : Sign sign negative)
      (named : word.map Char.toLower = "inf".toList ∨ word.map Char.toLower = "infinity".toList) :
      Double (sign ++ word) (if negative then -(1.0 / 0.0) else 1.0 / 0.0)
  | undefined {sign word : List Char} {negative : Bool} (signed : Sign sign negative)
      (named : word.map Char.toLower = "nan".toList) : Double (sign ++ word) (0.0 / 0.0)

/-! ## Signs -/

variable {text sign digits tail whole fraction word : List Char} {negative : Bool}

/-- A text does not go on with a sign. -/
def Unsigned (text : List Char) : Prop := ∀ c ∈ text.head?, c ≠ '+' ∧ c ≠ '-'

theorem takeSign_sign (h : Sign sign negative) (ht : Unsigned text) :
    takeSign (sign ++ text) = (negative, text) := by
  cases h with
  | plus => rfl
  | minus => rfl
  | absent =>
      cases text with
      | nil => rfl
      | cons c rest =>
          obtain ⟨hplus, hminus⟩ := ht c rfl
          unfold takeSign
          split
          · rename_i heq
            cases heq
            exact absurd rfl hminus
          · rename_i heq
            cases heq
            exact absurd rfl hplus
          · rfl

/-- What is taken off a text is a sign. -/
theorem exists_sign (text : List Char) :
    ∃ sign, Sign sign (takeSign text).1 ∧ text = sign ++ (takeSign text).2 := by
  unfold takeSign
  split
  · exact ⟨['-'], .minus, rfl⟩
  · exact ⟨['+'], .plus, rfl⟩
  · exact ⟨[], .absent, rfl⟩

theorem unsigned_of_isDigit {c : Char} (h : c.isDigit = true) : c ≠ '+' ∧ c ≠ '-' := by
  refine ⟨?_, ?_⟩ <;>
  · rintro rfl
    cases h

theorem unsigned_of_run (h : IsRun digits) : Unsigned digits := by
  intro c hc
  exact unsigned_of_isDigit (h c (List.mem_of_mem_head? hc))

/-! ## Powers of ten -/

theorem exponent?_eq_some_iff {k : Int} : exponent? tail = some k ↔ Exponent tail k := by
  constructor
  · intro h
    cases tail with
    | nil =>
        cases h
        exact .absent
    | cons mark rest =>
        simp only [exponent?] at h
        split at h
        · rename_i hmark
          split at h
          · rename_i hdigits
            cases h
            obtain ⟨sign, hsign, hrest⟩ := exists_sign rest
            have hpower := Exponent.power hmark hsign (List.all_eq_true.1 hdigits.2) hdigits.1
            rw [← hrest] at hpower
            exact hpower
          · cases h
        · cases h
  · intro h
    cases h with
    | absent => rfl
    | @power mark sign ds negative marked signed run ne_nil =>
        simp only [exponent?]
        rw [takeSign_sign signed (unsigned_of_run run), if_pos marked]
        exact if_pos ⟨ne_nil, List.all_eq_true.2 run⟩

/-- A power of ten begins neither with a digit nor with a point. -/
theorem Exponent.head {k : Int} (h : Exponent tail k) : NoDigit tail ∧ tail.head? ≠ some '.' := by
  cases h with
  | absent => exact ⟨fun c hc => absurd hc (by simp), by simp⟩
  | power marked _ _ _ =>
      rcases marked with rfl | rfl
      · exact ⟨by rintro c ⟨⟩; rfl, by simp⟩
      · exact ⟨by rintro c ⟨⟩; rfl, by simp⟩

/-! ## Numerals -/

/-- Digits begin with a digit or with the point. -/
theorem Digits.head (h : Digits digits whole fraction) :
    ∃ c rest, digits = c :: rest ∧ (c.isDigit = true ∨ c = '.') := by
  cases h with
  | whole run ne_nil =>
      obtain ⟨c, rest, rfl⟩ := List.exists_cons_of_ne_nil ne_nil
      exact ⟨c, rest, rfl, .inl (run c List.mem_cons_self)⟩
  | @pointed whole _ run _ _ =>
      cases whole with
      | nil => exact ⟨'.', _, rfl, .inr rfl⟩
      | cons c rest => exact ⟨c, _, rfl, .inl (run c List.mem_cons_self)⟩

theorem Digits.unsigned (h : Digits digits whole fraction) (tail : List Char) :
    Unsigned (digits ++ tail) := by
  obtain ⟨c, rest, rfl, hc⟩ := h.head
  rintro _ ⟨⟩
  rcases hc with hc | rfl
  · exact unsigned_of_isDigit hc
  · decide

/-- Digits without a point. -/
theorem numeral?_whole (run : IsRun whole) (ht : NoDigit tail) (hp : tail.head? ≠ some '.') :
    numeral? negative (whole ++ tail)
      = if whole = [] then none else (exponent? tail).map (⟨negative, whole, [], ·⟩) := by
  simp only [numeral?]
  rw [takeDigits_of_run run ht]
  dsimp only
  split
  · exact absurd rfl hp
  · simp only [and_true]

/-- Digits with a point. -/
theorem numeral?_pointed (run : IsRun whole) (run' : IsRun fraction) (ht : NoDigit tail) :
    numeral? negative (whole ++ '.' :: (fraction ++ tail))
      = if whole = [] ∧ fraction = [] then none
        else (exponent? tail).map (⟨negative, whole, fraction, ·⟩) := by
  have hbehind : NoDigit ('.' :: (fraction ++ tail)) := by
    rintro c ⟨⟩
    rfl
  simp only [numeral?]
  rw [takeDigits_of_run run hbehind]
  show (if whole = [] ∧ (takeDigits (fraction ++ tail)).1 = [] then none
    else (exponent? (takeDigits (fraction ++ tail)).2).map
      (Numeral.mk negative whole (takeDigits (fraction ++ tail)).1)) = _
  rw [takeDigits_of_run run' ht]

/-- The reading of a numeral is the taking apart of its digits, followed by its power of ten. -/
theorem numeral?_eq_some_iff {n : Numeral} :
    numeral? negative text = some n ↔ ∃ digits tail whole fraction k,
      text = digits ++ tail ∧ Digits digits whole fraction ∧ Exponent tail k ∧
        n = ⟨negative, whole, fraction, k⟩ := by
  constructor
  · intro h
    -- The text before the point, if there is one, and what is behind it.
    have htext := takeDigits_append text
    have hrun : IsRun (takeDigits text).1 := List.all_eq_true.1 List.all_takeWhile
    simp only [numeral?] at h
    generalize takeDigits text = parts at h htext hrun
    obtain ⟨whole, rest⟩ := parts
    dsimp only at h htext hrun
    split at h
    · rename_i rest' more
      have hmore := takeDigits_append more
      have hrun' : IsRun (takeDigits more).1 := List.all_eq_true.1 List.all_takeWhile
      generalize takeDigits more = parts at h hmore hrun'
      obtain ⟨fraction, tail⟩ := parts
      dsimp only at h hmore hrun'
      split at h
      · cases h
      · rename_i hsome
        obtain ⟨k, hk, rfl⟩ := Option.map_eq_some_iff.1 h
        refine ⟨whole ++ '.' :: fraction, tail, whole, fraction, k, ?_, ?_, ?_, rfl⟩
        · rw [← htext, ← hmore, List.append_assoc, List.cons_append]
        · exact .pointed hrun hrun' (not_and_or.1 hsome)
        · exact exponent?_eq_some_iff.1 hk
    · split at h
      · cases h
      · rename_i hsome
        obtain ⟨k, hk, rfl⟩ := Option.map_eq_some_iff.1 h
        have hne : whole ≠ [] := fun hnil => hsome ⟨hnil, rfl⟩
        exact ⟨whole, rest, whole, [], k, htext.symm, .whole hrun hne,
          exponent?_eq_some_iff.1 hk, rfl⟩
  · rintro ⟨digits, tail, whole, fraction, k, rfl, hdigits, hk, rfl⟩
    obtain ⟨hdigit, hpoint⟩ := hk.head
    have hread := exponent?_eq_some_iff.2 hk
    cases hdigits with
    | whole run ne_nil =>
        rw [numeral?_whole run hdigit hpoint, if_neg ne_nil, hread]
        rfl
    | pointed run run' some_digit =>
        rw [List.append_assoc, List.cons_append, numeral?_pointed run run' hdigit,
          if_neg (not_and_or.2 some_digit), hread]
        rfl

/-! ## Doubles -/

/-- Words begin with a letter. -/
theorem unsigned_of_lower (h : ∀ c ∈ (word.map Char.toLower).head?, c ≠ '+' ∧ c ≠ '-') :
    Unsigned word := by
  rintro c hc
  refine ⟨?_, ?_⟩ <;>
  · rintro rfl
    have hlower := h _ (by rw [List.head?_map, hc]; rfl)
    simp at hlower

/-- No numeral is one of the words. -/
theorem Digits.not_word {w : List Char} (h : Digits digits whole fraction) (tail : List Char)
    (hw : ∀ c ∈ w.head?, c.isDigit = false ∧ c ≠ '.') :
    (digits ++ tail).map Char.toLower ≠ w := by
  obtain ⟨c, rest, rfl, hc⟩ := h.head
  rintro rfl
  obtain ⟨hdigit, hpoint⟩ := hw _ rfl
  rcases hc with hc | rfl
  · have hlower : c.toLower = c := by
      unfold Char.toLower
      rw [dif_neg]
      intro hupper
      have hnine : c.toNat ≤ 57 := (Char.isDigit_iff_toNat.1 hc).2
      have hletter : 65 ≤ c.toNat := hupper.1
      omega
    rw [hlower, hc] at hdigit
    cases hdigit
  · exact hpoint rfl

/-- The reader accepts the texts of the grammar and no others, and each as the double that the
grammar gives it. -/
theorem readFloat_eq_ok_iff {x : Float} : readFloat text = .ok x ↔ Double text x := by
  constructor
  · intro h
    obtain ⟨sign, hsign, htext⟩ := exists_sign text
    unfold readFloat at h
    split at h
    · cases h
    · generalize takeSign text = parts at h hsign htext
      obtain ⟨negative, body⟩ := parts
      dsimp only at h hsign htext
      rw [htext]
      split at h
      · rename_i hword
        cases h
        exact .infinite hsign hword
      · split at h
        · rename_i hword
          cases h
          exact .undefined hsign hword
        · split at h
          · rename_i n hn
            cases h
            obtain ⟨digits, tail, whole, fraction, k, rfl, hdigits, hk, rfl⟩ :=
              numeral?_eq_some_iff.1 hn
            exact .number (.mk hsign hdigits hk)
          · cases h
  · intro h
    cases h with
    | number numeral =>
        cases numeral with
        | @mk sign digits tail whole fraction negative k signed body power =>
            obtain ⟨c, rest, hcons, -⟩ := body.head
            have hne : sign ++ (digits ++ tail) ≠ [] := by simp [hcons]
            have hinf := body.not_word tail (w := "inf".toList) (by rintro _ ⟨⟩; decide)
            have hinfinity := body.not_word tail (w := "infinity".toList) (by rintro _ ⟨⟩; decide)
            have hnan := body.not_word tail (w := "nan".toList) (by rintro _ ⟨⟩; decide)
            have hread : numeral? negative (digits ++ tail) = some ⟨negative, whole, fraction, k⟩ :=
              numeral?_eq_some_iff.2 ⟨digits, tail, whole, fraction, k, rfl, body, power, rfl⟩
            unfold readFloat
            rw [if_neg hne, takeSign_sign signed (body.unsigned tail)]
            dsimp only
            rw [if_neg (not_or.2 ⟨hinf, hinfinity⟩), if_neg hnan, hread]
    | @infinite sign word negative signed named =>
        have hunsigned : Unsigned word := by
          refine unsigned_of_lower ?_
          rcases named with named | named <;>
          · rw [named]
            rintro _ ⟨⟩
            decide
        have hne : sign ++ word ≠ [] := by
          intro hnil
          rw [(List.append_eq_nil_iff.1 hnil).2] at named
          rcases named with named | named <;> cases named
        unfold readFloat
        rw [if_neg hne, takeSign_sign signed hunsigned]
        exact if_pos named
    | @undefined sign word negative signed named =>
        have hunsigned : Unsigned word := by
          refine unsigned_of_lower ?_
          rw [named]
          rintro _ ⟨⟩
          decide
        have hne : sign ++ word ≠ [] := by
          intro hnil
          rw [(List.append_eq_nil_iff.1 hnil).2] at named
          cases named
        have hfinite : ¬ (word.map Char.toLower = "inf".toList ∨
            word.map Char.toLower = "infinity".toList) := by
          rw [named]
          decide
        unfold readFloat
        rw [if_neg hne, takeSign_sign signed hunsigned]
        dsimp only
        rw [if_neg hfinite, if_pos named]

end HomeEnergy.Literal
