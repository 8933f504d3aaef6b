import HomeEnergy.Device.Stove
import HomeEnergy.Proofs.Decimal.Literal
import Mathlib.Data.List.Basic
import Mathlib.Data.List.TakeWhile

/-!
# The number in a text with ornaments

Around the number in a text there may be anything without a digit: units, points, blanks, further
signs, and characters of any alphabet. What counts is the span from the first digit to the last,
with the sign directly before it if there is one. If the span is a number as a whole, that is the
number in the text; otherwise, and if there is no digit at all, the number is zero.

## Main results

* `Stove.digitSpan_spanned` — the span is found between any ornaments.
* `Stove.exists_spanned` — each text with a digit has one.
* `Stove.readNumber_trimmed` — blanks around a text make no difference.
* `Stove.readNumber_decided` — the number in a text, for all texts.
-/

namespace HomeEnergy.Stove

open Literal (Sign Digits Exponent Number Double)

/-- Without digits. -/
abbrev Bare (text : List Char) : Prop := ∀ c ∈ text, c.isDigit = false

theorem bare_of_all {text : List Char} (h : text.all (!·.isDigit) = true) : Bare text :=
  fun c hc => Bool.not_inj (List.all_eq_true.1 h c hc)

/-- A text in four parts: its span from the first digit to the last, the sign directly before it,
and what is before and behind. -/
structure Spanned (before sign span behind : List Char) : Prop where
  bare_before : Bare before
  bare_behind : Bare behind
  signed : ∃ negative, Sign sign negative
  /-- A sign that stands directly before the span is not left out. -/
  direct : sign = [] → ∀ c ∈ before.getLast?, c ≠ '+' ∧ c ≠ '-'
  first : ∃ c ∈ span.head?, c.isDigit = true
  last : ∃ c ∈ span.getLast?, c.isDigit = true

/-! ## Finding the span -/

variable {before sign span behind text rest : List Char}

theorem dropWhile_bare (h : Bare before) (hfirst : ∃ c ∈ text.head?, c.isDigit = true) :
    (before ++ text).dropWhile (!·.isDigit) = text := by
  obtain ⟨c, hc, hdigit⟩ := hfirst
  obtain ⟨rest, rfl⟩ := List.head?_eq_some_iff.1 hc
  rw [List.dropWhile_append_of_pos fun d hd => by simp [h d hd],
    List.dropWhile_cons_of_neg (by simp [hdigit])]

theorem takeWhile_bare (h : Bare before) (hfirst : ∃ c ∈ text.head?, c.isDigit = true) :
    (before ++ text).takeWhile (!·.isDigit) = before := by
  obtain ⟨c, hc, hdigit⟩ := hfirst
  obtain ⟨rest, rfl⟩ := List.head?_eq_some_iff.1 hc
  rw [List.takeWhile_append_of_pos fun d hd => by simp [h d hd],
    List.takeWhile_cons_of_neg (by simp [hdigit]), List.append_nil]

/-- A sign is no digit. -/
theorem bare_sign (h : ∃ negative, Sign sign negative) : Bare sign := by
  obtain ⟨negative, h⟩ := h
  cases h with
  | absent => exact fun c hc => absurd hc List.not_mem_nil
  | plus => exact fun c hc => List.mem_singleton.1 hc ▸ rfl
  | minus => exact fun c hc => List.mem_singleton.1 hc ▸ rfl

theorem Spanned.bare_signed (h : Spanned before sign span behind) : Bare (before ++ sign) := by
  intro c hc
  rcases List.mem_append.1 hc with hc | hc
  · exact h.bare_before c hc
  · exact bare_sign h.signed c hc

/-- The span is found between any ornaments. -/
theorem digitSpan_spanned (h : Spanned before sign span behind) :
    digitSpan (before ++ (sign ++ (span ++ behind))) = sign ++ span := by
  have hfirst : ∃ c ∈ (span ++ behind).head?, c.isDigit = true := by
    obtain ⟨c, hc, hdigit⟩ := h.first
    exact ⟨c, List.mem_head?_append_of_mem_head? hc, hdigit⟩
  have hlast : ∃ c ∈ span.reverse.head?, c.isDigit = true := by
    rw [List.head?_reverse]
    exact h.last
  have hbehind : Bare behind.reverse := fun c hc => h.bare_behind c (List.mem_reverse.1 hc)
  have hspan : ((span ++ behind).reverse.dropWhile (!·.isDigit)).reverse = span := by
    rw [List.reverse_append, dropWhile_bare hbehind hlast, List.reverse_reverse]
  unfold digitSpan
  rw [← List.append_assoc, dropWhile_bare h.bare_signed hfirst, takeWhile_bare h.bare_signed hfirst]
  dsimp only
  rw [hspan]
  obtain ⟨negative, hsign⟩ := h.signed
  cases hsign with
  | plus =>
      rw [List.getLast?_concat]
      rfl
  | minus =>
      rw [List.getLast?_concat]
      rfl
  | absent =>
      rw [List.append_nil]
      split
      · rename_i hminus
        exact absurd rfl (h.direct rfl _ hminus).2
      · rename_i hplus
        exact absurd rfl (h.direct rfl _ hplus).1
      · rfl

/-- A text without digits has a span that is a sign at most. -/
theorem digitSpan_bare (h : Bare text) : ∃ negative, Sign (digitSpan text) negative := by
  have hdrop : text.dropWhile (!·.isDigit) = [] := List.dropWhile_eq_nil_iff.2 fun c hc => by
    simp [h c hc]
  unfold digitSpan
  rw [hdrop]
  dsimp only
  split
  · exact ⟨true, .minus⟩
  · exact ⟨false, .plus⟩
  · exact ⟨false, .absent⟩

/-- The last sign of a text, and the text before it. -/
theorem exists_signed (text : List Char) : ∃ before sign, text = before ++ sign ∧
    (∃ negative, Sign sign negative) ∧
    (sign = [] → ∀ c ∈ before.getLast?, c ≠ '+' ∧ c ≠ '-') := by
  rcases List.eq_nil_or_concat text with rfl | ⟨init, c, rfl⟩
  · exact ⟨[], [], rfl, ⟨false, .absent⟩, fun _ c hc => absurd hc (by simp)⟩
  · rw [List.concat_eq_append]
    by_cases hplus : c = '+'
    · subst hplus
      exact ⟨init, ['+'], rfl, ⟨false, .plus⟩, fun hnil => absurd hnil (by simp)⟩
    · by_cases hminus : c = '-'
      · subst hminus
        exact ⟨init, ['-'], rfl, ⟨true, .minus⟩, fun hnil => absurd hnil (by simp)⟩
      · refine ⟨init ++ [c], [], by simp, ⟨false, .absent⟩, ?_⟩
        intro _ d hd
        rw [List.getLast?_concat] at hd
        cases hd
        exact ⟨hplus, hminus⟩

/-- A text with a digit, cut behind all that comes before the first one. -/
theorem exists_first (h : ¬ Bare text) : ∃ before rest, text = before ++ rest ∧ Bare before ∧
    ∃ c ∈ rest.head?, c.isDigit = true := by
  refine ⟨text.takeWhile (!·.isDigit), text.dropWhile (!·.isDigit),
    List.takeWhile_append_dropWhile.symm, ?_, ?_⟩
  · intro c hc
    simpa using List.all_eq_true.1 List.all_takeWhile c hc
  · have hne : text.dropWhile (!·.isDigit) ≠ [] := by
      intro hnil
      refine h fun c hc => ?_
      simpa using List.dropWhile_eq_nil_iff.1 hnil c hc
    refine ⟨_, List.head?_eq_some_head hne, ?_⟩
    simpa using List.head_dropWhile_not (fun c : Char => !c.isDigit) hne

/-- Each text with a digit has a span. -/
theorem exists_spanned (h : ¬ Bare text) : ∃ before sign span behind,
    text = before ++ (sign ++ (span ++ behind)) ∧ Spanned before sign span behind := by
  obtain ⟨front, rest, rfl, hfront, hfirst⟩ := exists_first h
  have hrest : ¬ Bare rest.reverse := by
    intro hbare
    obtain ⟨c, hc, hdigit⟩ := hfirst
    rw [hbare c (List.mem_reverse.2 (List.mem_of_mem_head? hc))] at hdigit
    cases hdigit
  -- The same from the other end.
  obtain ⟨back, middle, hmiddle, hback, hlast⟩ := exists_first hrest
  have hcut : rest = middle.reverse ++ back.reverse := by
    rw [← List.reverse_append, ← hmiddle, List.reverse_reverse]
  obtain ⟨before, sign, rfl, hsign, hdirect⟩ := exists_signed front
  obtain ⟨d, hd, hdlast⟩ := hlast
  obtain ⟨c, hc, hcfirst⟩ := hfirst
  refine ⟨before, sign, middle.reverse, back.reverse, by rw [hcut, List.append_assoc], ?_, ?_,
    hsign, hdirect, ?_, ?_⟩
  · exact fun c hc => hfront c (List.mem_append_left sign hc)
  · exact fun c hc => hback c (List.mem_reverse.1 hc)
  · have hne : middle.reverse ≠ [] := by
      intro hnil
      rw [List.reverse_eq_nil_iff] at hnil
      rw [hnil] at hd
      cases hd
    rw [hcut, List.head?_append_of_ne_nil _ hne] at hc
    exact ⟨c, hc, hcfirst⟩
  · rw [List.getLast?_reverse]
    exact ⟨d, hd, hdlast⟩

/-! ## Reading the span -/

/-- A sign alone is no number. -/
theorem not_double_sign (h : ∃ negative, Sign sign negative) (x : Float) : ¬ Double sign x := by
  intro hx
  have hread := Literal.readFloat_eq_ok_iff.2 hx
  obtain ⟨negative, hsign⟩ := h
  cases hsign with
  | absent => cases hread
  | plus => cases hread
  | minus => cases hread

theorem readNumber_eq {x : Float} {s : String} (h : Double (digitSpan s.toList) x) :
    readNumber s = x := by
  unfold readNumber
  rw [Literal.readFloat_eq_ok_iff.2 h]

theorem readNumber_eq_zero {s : String} (h : ∀ x, ¬ Double (digitSpan s.toList) x) :
    readNumber s = 0.0 := by
  unfold readNumber
  split
  · rename_i x hx
    exact absurd (Literal.readFloat_eq_ok_iff.1 hx) (h x)
  · rfl

/-- A text without digits counts as zero. -/
theorem readNumber_bare {s : String} (h : Bare s.toList) : readNumber s = 0.0 :=
  readNumber_eq_zero (not_double_sign (digitSpan_bare h))

/-! ## Blanks around a text -/

theorem not_isBlank_of_isDigit {c : Char} (h : c.isDigit = true) : Text.isBlank c = false := by
  obtain ⟨hlow, hhigh⟩ := Char.isDigit_iff_toNat.1 h
  change 48 ≤ c.toNat at hlow
  change c.toNat ≤ 57 at hhigh
  simp [Text.isBlank]
  omega

/-- Blanks are dropped up to the first character that is none. -/
theorem dropBlank_append (h : ∃ c ∈ text.head?, Text.isBlank c = false) :
    Text.dropBlank (before ++ text) = Text.dropBlank before ++ text := by
  obtain ⟨c, hc, hblank⟩ := h
  obtain ⟨rest, rfl⟩ := List.head?_eq_some_iff.1 hc
  unfold Text.dropBlank
  rw [List.dropWhile_append]
  split
  · rename_i hall
    rw [List.isEmpty_iff.1 hall, List.dropWhile_cons_of_neg (by simp [hblank]), List.nil_append]
  · rfl

/-- What stands before the span, the blanks in front taken away, still does not end with a sign. -/
theorem Spanned.dropBlank (h : Spanned before sign span behind) :
    Spanned (Text.dropBlank before) sign span behind where
  bare_before c hc := h.bare_before c (List.dropWhile_subset _ hc)
  bare_behind := h.bare_behind
  signed := h.signed
  direct hnil c hc := by
    refine h.direct hnil c ?_
    obtain ⟨front, hfront⟩ := List.dropWhile_suffix (l := before) Text.isBlank
    rw [← hfront]
    exact List.mem_getLast?_append_of_mem_getLast? hc
  first := h.first
  last := h.last

theorem Spanned.dropBehind (h : Spanned before sign span behind) :
    Spanned before sign span (Text.dropBlank behind.reverse).reverse where
  bare_before := h.bare_before
  bare_behind c hc :=
    h.bare_behind c (List.mem_reverse.1 (List.dropWhile_subset _ (List.mem_reverse.1 hc)))
  signed := h.signed
  direct := h.direct
  first := h.first
  last := h.last

/-- Trimming takes blanks off the ornaments only. -/
theorem Spanned.trim (h : Spanned before sign span behind) :
    Text.trim (before ++ (sign ++ (span ++ behind)))
      = Text.dropBlank before ++ (sign ++ (span ++ (Text.dropBlank behind.reverse).reverse)) := by
  obtain ⟨c, hc, hdigit⟩ := h.first
  obtain ⟨d, hd, hdigit'⟩ := h.last
  have hfront : ∃ c ∈ (sign ++ (span ++ behind)).head?, Text.isBlank c = false := by
    obtain ⟨negative, hsign⟩ := h.signed
    cases hsign with
    | absent =>
        have hhead : c ∈ (span ++ behind).head? := List.mem_head?_append_of_mem_head? hc
        exact ⟨c, hhead, not_isBlank_of_isDigit hdigit⟩
    | plus => exact ⟨'+', rfl, by decide⟩
    | minus => exact ⟨'-', rfl, by decide⟩
  have hback : ∃ c ∈ (span.reverse ++ (sign.reverse ++ (Text.dropBlank before).reverse)).head?,
      Text.isBlank c = false := by
    refine ⟨d, List.mem_head?_append_of_mem_head? ?_, not_isBlank_of_isDigit hdigit'⟩
    rw [List.head?_reverse]
    exact hd
  unfold Text.trim
  rw [dropBlank_append hfront]
  simp only [List.reverse_append, List.append_assoc]
  rw [dropBlank_append hback]
  simp only [List.reverse_append, List.reverse_reverse, List.append_assoc]

/-- Blanks around a text make no difference to its number. -/
theorem readNumber_trimmed (s : String) : readNumber (Text.trimmed s) = readNumber s := by
  by_cases h : Bare s.toList
  · have htrimmed : Bare (Text.trimmed s).toList := by
      intro c hc
      rw [Text.trimmed, String.toList_ofList, Text.trim, List.mem_reverse] at hc
      have hmem := List.dropWhile_subset _ (List.mem_reverse.1 (List.dropWhile_subset _ hc))
      exact h c hmem
    rw [readNumber_bare h, readNumber_bare htrimmed]
  · obtain ⟨before, sign, span, behind, htext, hspanned⟩ := exists_spanned h
    have hspan : digitSpan (Text.trimmed s).toList = digitSpan s.toList := by
      rw [Text.trimmed, String.toList_ofList, htext, hspanned.trim,
        digitSpan_spanned hspanned.dropBlank.dropBehind, digitSpan_spanned hspanned]
    unfold readNumber
    rw [hspan]

/-! ## The number in a text -/

/-- A plain decimal: digits, or digits, a point and more digits. -/
inductive Plain : List Char → List Char → List Char → Prop where
  | whole {ds : List Char} (run : IsRun ds) (ne_nil : ds ≠ []) : Plain ds ds []
  | pointed {whole fraction : List Char} (run : IsRun whole) (ne_nil : whole ≠ [])
      (run' : IsRun fraction) (ne_nil' : fraction ≠ []) :
      Plain (whole ++ '.' :: fraction) whole fraction

variable {decimal whole fraction : List Char}

theorem Plain.digits (h : Plain decimal whole fraction) : Digits decimal whole fraction := by
  cases h with
  | whole run ne_nil => exact .whole run ne_nil
  | pointed run ne_nil run' _ => exact .pointed run run' (.inl ne_nil)

theorem Plain.first (h : Plain decimal whole fraction) :
    ∃ c ∈ decimal.head?, c.isDigit = true := by
  cases h with
  | whole run ne_nil =>
      exact ⟨_, List.head?_eq_some_head ne_nil, run _ (List.head_mem ne_nil)⟩
  | pointed run ne_nil _ _ =>
      rw [List.head?_append_of_ne_nil _ ne_nil]
      exact ⟨_, List.head?_eq_some_head ne_nil, run _ (List.head_mem ne_nil)⟩

theorem Plain.last (h : Plain decimal whole fraction) :
    ∃ c ∈ decimal.getLast?, c.isDigit = true := by
  cases h with
  | whole run ne_nil =>
      exact ⟨_, List.getLast?_eq_some_getLast ne_nil, run _ (List.getLast_mem ne_nil)⟩
  | @pointed whole fraction _ _ run' ne_nil' =>
      have hlast : (whole ++ '.' :: fraction).getLast? = fraction.getLast? := by
        rw [List.append_cons, List.getLast?_append_of_ne_nil _ ne_nil']
      rw [hlast]
      exact ⟨_, List.getLast?_eq_some_getLast ne_nil', run' _ (List.getLast_mem ne_nil')⟩

/-- The number in a text. A plain decimal with an optional sign is found between any ornaments
without digits, and is the number that it is by itself. In general, a text without a digit counts as
zero. Any other text has a span from its first digit to its last, with the sign directly before it;
if the span is a number as a whole, that is the number in the text, and otherwise the text counts as
zero. -/
theorem readNumber_decided :
    (∀ {before sign decimal whole fraction behind : List Char} {negative : Bool},
      Bare before → Bare behind → Sign sign negative → Plain decimal whole fraction →
      (sign = [] → ∀ c ∈ before.getLast?, c ≠ '+' ∧ c ≠ '-') →
      ∃ x, x = Numeral.exact ⟨negative, whole, fraction, 0⟩ ∧ readFloat (sign ++ decimal) = .ok x ∧
        readNumber (String.ofList (before ++ (sign ++ (decimal ++ behind)))) = x) ∧
    (∀ text : String, Bare text.toList → readNumber text = 0.0) ∧
    (∀ text : String, ¬ Bare text.toList → ∃ before sign span behind,
      text.toList = before ++ (sign ++ (span ++ behind)) ∧ Spanned before sign span behind) ∧
    (∀ (text : String) {before sign span behind : List Char},
      text.toList = before ++ (sign ++ (span ++ behind)) → Spanned before sign span behind →
      (∀ x, Double (sign ++ span) x → readNumber text = x) ∧
      ((∀ x, ¬ Double (sign ++ span) x) → readNumber text = 0.0)) := by
  refine ⟨?_, fun text => readNumber_bare, fun text => exists_spanned, ?_⟩
  · intro before sign decimal whole fraction behind negative hbefore hbehind hsign hplain hdirect
    have hspanned : Spanned before sign decimal behind :=
      ⟨hbefore, hbehind, ⟨negative, hsign⟩, hdirect, hplain.first, hplain.last⟩
    have hdouble : Double (sign ++ decimal) (Numeral.exact ⟨negative, whole, fraction, 0⟩) := by
      have hnumber := Number.mk hsign hplain.digits .absent
      rw [List.append_nil] at hnumber
      exact .number hnumber
    refine ⟨_, rfl, Literal.readFloat_eq_ok_iff.2 hdouble, readNumber_eq ?_⟩
    rw [String.toList_ofList, digitSpan_spanned hspanned]
    exact hdouble
  · intro text before sign span behind htext hspanned
    have hspan : digitSpan text.toList = sign ++ span := by
      rw [htext, digitSpan_spanned hspanned]
    refine ⟨fun x hx => readNumber_eq (hspan ▸ hx), fun hnone => readNumber_eq_zero ?_⟩
    rw [hspan]
    exact hnone

/-- Points, signs and characters of several bytes around a number are passed over, but what stands
between two digits is not. -/
theorem readNumber_decided_ornate :
    (∃ x, x = Numeral.exact ⟨true, ['1', '0'], ['5'], 0⟩ ∧
      readNumber "Δ+ −. Vorlauf: --10.5 °C (±.e)" = x) ∧
    readNumber "Δ+ −. Vorlauf" = 0.0 ∧ readNumber "von -1 bis 2,5 bar" = 0.0 := by
  refine ⟨?_, readNumber_decided.2.1 _ (bare_of_all (by decide)), ?_⟩
  · have hbefore : Bare "Δ+ −. Vorlauf: -".toList := bare_of_all (by decide)
    have hbehind : Bare " °C (±.e)".toList := bare_of_all (by decide)
    have hwhole : IsRun ['1', '0'] := List.all_eq_true.1 (by decide)
    have hfraction : IsRun ['5'] := List.all_eq_true.1 (by decide)
    have hplain : Plain (['1', '0'] ++ '.' :: ['5']) ['1', '0'] ['5'] :=
      .pointed hwhole (List.cons_ne_nil _ _) hfraction (List.cons_ne_nil _ _)
    obtain ⟨x, hx, -, hread⟩ := readNumber_decided.1 hbefore hbehind .minus hplain
      fun hnil => absurd hnil (List.cons_ne_nil _ _)
    exact ⟨x, hx, hread⟩
  · have hbefore : Bare "von ".toList := bare_of_all (by decide)
    have hbehind : Bare " bar".toList := bare_of_all (by decide)
    have hspanned : Spanned "von ".toList ['-'] "1 bis 2,5".toList " bar".toList :=
      ⟨hbefore, hbehind, ⟨true, .minus⟩, fun hnil => absurd hnil (List.cons_ne_nil _ _),
        ⟨'1', rfl, rfl⟩, ⟨'5', rfl, rfl⟩⟩
    refine (readNumber_decided.2.2.2 "von -1 bis 2,5 bar" rfl hspanned).2 ?_
    intro x hx
    have hread := Literal.readFloat_eq_ok_iff.2 hx
    have hrefused : readFloat (['-'] ++ "1 bis 2,5".toList) = .error .invalidFloat := by
      decide +kernel
    rw [hrefused] at hread
    cases hread

end HomeEnergy.Stove
