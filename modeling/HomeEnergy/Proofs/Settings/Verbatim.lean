import HomeEnergy.Proofs.Decimal.Whole
import HomeEnergy.Settings.Override
import Mathlib

/-!
# Values of variables that stand for themselves

The value of a variable that overrides a setting is written in a notation of its own. This module
says which values are taken as the texts that they are: those that the notation cannot make sense of
(`Override.Legible` fails), and words (`Override.Word`), which are neither quoted nor a number or a
truth value and have no blanks around them.

Whatever else a value is read as, it is not itself: quotes are taken off and escapes shorten a text,
so that a quoted text is always shorter than its notation.

## Main results

* `Override.value_eq_text_iff` — the values that stand for themselves.
-/

namespace HomeEnergy.Override

variable {text rest : List Char}

/-! ## Quoted texts -/

theorem length_hexDigits? {count n m : Nat} (h : hexDigits? count n text = some (m, rest)) :
    rest.length ≤ text.length := by
  induction count generalizing n text with
  | zero =>
      simp only [hexDigits?, Option.some.injEq, Prod.mk.injEq] at h
      rw [h.2]
  | succ count ih =>
      cases text with
      | nil => simp [hexDigits?] at h
      | cons c text =>
          simp only [hexDigits?, Option.bind_eq_bind, Option.bind_eq_some_iff] at h
          obtain ⟨d, -, h⟩ := h
          exact Nat.le_succ_of_le (ih h)

theorem length_numbered {count : Nat} {p : Char × List Char}
    (h : ((hexDigits? count 0 text).bind fun q =>
      if q.1.isValidChar then some (Char.ofNat q.1, q.2) else none) = some p) :
    p.2.length ≤ text.length := by
  obtain ⟨⟨n, left⟩, hdigits, hchar⟩ := Option.bind_eq_some_iff.1 h
  by_cases hvalid : n.isValidChar
  · rw [if_pos hvalid] at hchar
    obtain rfl := Option.some.inj hchar
    exact length_hexDigits? hdigits
  · rw [if_neg hvalid] at hchar
    cases hchar

/-- One more character has been read in front of a text. -/
theorem length_behind {fuel : Nat} {c d : Char} {behind body : List Char}
    (ih : ∀ {front : List Char}, quotedBody fuel behind = some (front, rest) →
      front.length + rest.length < behind.length)
    (hbehind : behind.length ≤ text.length)
    (h : ((quotedBody fuel behind).bind fun p => some (d :: p.1, p.2)) = some (body, rest)) :
    body.length + rest.length < (c :: text).length := by
  obtain ⟨⟨front, left⟩, hfront, hbody⟩ := Option.bind_eq_some_iff.1 h
  obtain ⟨rfl, rfl⟩ := Prod.mk.inj (Option.some.inj hbody)
  have hshorter := ih hfront
  simp only [List.length_cons] at hshorter ⊢
  omega

/-- Each character of a quoted text takes at least one character of its notation, and the closing
quote takes one more. -/
theorem length_quotedBody {fuel : Nat} {body : List Char}
    (h : quotedBody fuel text = some (body, rest)) : body.length + rest.length < text.length := by
  induction fuel generalizing text body with
  | zero => simp [quotedBody] at h
  | succ fuel ih =>
      cases text with
      | nil => simp [quotedBody] at h
      | cons c text =>
          unfold quotedBody at h
          by_cases hquote : c = '"'
          · rw [if_pos hquote] at h
            obtain ⟨rfl, rfl⟩ := Prod.mk.inj (Option.some.inj h)
            simp
          · rw [if_neg hquote] at h
            by_cases hescape : c = '\\'
            · rw [if_pos hescape] at h
              cases text with
              | nil => cases h
              | cons e more =>
                  have hmore : more.length ≤ (e :: more).length := Nat.le_succ _
                  dsimp only at h
                  split at h
                  case h_8 | h_9 =>
                    obtain ⟨p, hp, hrest⟩ := Option.bind_eq_some_iff.1 h
                    exact length_behind ih ((length_numbered hp).trans hmore) hrest
                  case h_10 => cases h
                  all_goals exact length_behind ih hmore h
            · rw [if_neg hescape] at h
              split at h
              · cases h
              · exact length_behind ih le_rfl h

/-- A quoted text is shorter than its notation. -/
theorem length_quoted? {s : String} (h : quoted? text = some (s, rest)) :
    s.length < text.length := by
  unfold quoted? at h
  split at h
  · next body =>
    obtain ⟨⟨content, behind⟩, hbody, hs⟩ := Option.map_eq_some_iff.1 h
    obtain ⟨rfl, -⟩ := Prod.mk.inj hs
    have := length_quotedBody hbody
    simp only [String.length_ofList, List.length_cons]
    omega
  · cases h

/-! ## Blanks -/

theorem isBlank_of_isGap {c : Char} (h : isGap c = true) : Text.isBlank c = true := by
  simp only [isGap, Bool.or_eq_true, decide_eq_true_eq] at h
  rcases h with (((rfl | rfl) | rfl) | rfl) | rfl <;> decide

theorem skipGap_sublist : (skipGap text).Sublist text := List.dropWhile_sublist _

theorem trim_sublist : (Text.trim text).Sublist text := by
  have hfront : (Text.dropBlank text).Sublist text := List.dropWhile_sublist _
  have hback : (Text.dropBlank (Text.dropBlank text).reverse).Sublist
      (Text.dropBlank text).reverse := List.dropWhile_sublist _
  have hback' := hback.reverse
  rw [List.reverse_reverse] at hback'
  exact hback'.trans hfront

/-- A text without blanks at its ends has no gap in front. -/
theorem skipGap_of_trimmed (h : Text.trim text = text) : skipGap text = text := by
  cases text with
  | nil => rfl
  | cons c text =>
      by_cases hc : isGap c = true
      · have hdrop : Text.dropBlank (c :: text) = Text.dropBlank text :=
          List.dropWhile_cons_of_pos (isBlank_of_isGap hc)
        have hshort : (Text.trim (c :: text)).Sublist text := by
          have htrim : Text.trim (c :: text) = Text.trim text := by
            unfold Text.trim
            rw [hdrop]
          rw [htrim]
          exact trim_sublist
        rw [h] at hshort
        exact absurd hshort.length_le (by simp)
      · exact List.dropWhile_cons_of_neg hc

/-! ## Plain values -/

/-- The text is a number: one with a point, or a whole one of 64 bits with or without sign. -/
def Number (text : List Char) : Prop :=
  ('.' ∈ text ∧ ∃ x, Literal.Double text x) ∨
    ∃ n, Literal.Whole text n ∧ -(2 ^ 63) ≤ n ∧ n < 2 ^ 64

/-- A plain value is the first number that it can be read as, and else a text. -/
theorem plain_eq : plain text =
    match (if '.' ∈ text then (readFloat text).toOption else none),
      (if text.head? = some '-' then none else (readInteger 65 text).toOption),
      (readInteger 64 text).toOption with
    | some x, _, _ => .float x
    | none, some n, _ => .int n
    | none, none, some n => .int n
    | none, none, none => .text (String.ofList text) := by
  unfold plain
  by_cases hsign : text.head? = some '-'
  · obtain ⟨tail, rfl⟩ := List.head?_eq_some_iff.1 hsign
    by_cases hpoint : '.' ∈ '-' :: tail <;>
    cases readFloat ('-' :: tail) <;> cases readInteger 64 ('-' :: tail) <;>
    simp_all [Except.toOption]
  · have hother : ∀ tail, text ≠ '-' :: tail := by
      rintro tail rfl
      exact hsign rfl
    rw [if_neg hsign]
    by_cases hpoint : '.' ∈ text <;>
    cases readFloat text <;> cases readInteger 65 text <;> cases readInteger 64 text <;>
    simp_all [Except.toOption]

/-- Numbers are what the readers of numbers accept. -/
theorem number_iff : Number text ↔
    ('.' ∈ text ∧ ∃ x, readFloat text = .ok x) ∨
      (text.head? ≠ some '-' ∧ ∃ n, readInteger 65 text = .ok n) ∨
        ∃ n, readInteger 64 text = .ok n := by
  have hwhole : (∃ n, Literal.Whole text n ∧ -(2 ^ 63) ≤ n ∧ n < 2 ^ 64) ↔
      (text.head? ≠ some '-' ∧ ∃ n, readInteger 65 text = .ok n) ∨
        ∃ n, readInteger 64 text = .ok n := by
    simp only [Literal.readInteger_eq_ok_iff]
    constructor
    · rintro ⟨n, hn, hlow, hhigh⟩
      by_cases hsign : text.head? = some '-'
      · -- With a minus the number is not positive.
        refine Or.inr ⟨n, hn, hlow, ?_⟩
        cases hn with
        | mk signed run ne_nil =>
            cases signed with
            | absent =>
                have hdigit := run '-' (List.mem_of_mem_head? hsign)
                cases hdigit
            | plus => simp at hsign
            | minus => simp only [if_true]; omega
      · refine Or.inl ⟨hsign, n, hn, ?_, hhigh⟩
        omega
    · rintro (⟨hsign, n, hn, -, hhigh⟩ | ⟨n, hn, hlow, hhigh⟩)
      · refine ⟨n, hn, ?_, hhigh⟩
        cases hn with
        | mk signed run ne_nil =>
            cases signed with
            | absent => simp only [Bool.false_eq_true, if_false]; omega
            | plus => simp only [Bool.false_eq_true, if_false]; omega
            | minus => simp at hsign
      · refine ⟨n, hn, by omega, by omega⟩
  rw [← hwhole]
  unfold Number
  simp only [Literal.readFloat_eq_ok_iff]

/-- Plain values are texts if they are no numbers, and then the texts that they are. -/
theorem plain_eq_text_iff {s : String} :
    plain text = .text s ↔ ¬ Number text ∧ s = String.ofList text := by
  rw [number_iff, plain_eq]
  by_cases hpoint : '.' ∈ text <;> by_cases hsign : text.head? = some '-' <;>
  cases readFloat text <;> cases readInteger 65 text <;> cases readInteger 64 text <;>
  simp [hpoint, hsign, Except.toOption, eq_comm]

/-! ## Whole values -/

/-- How a plain value starts: not with a truth value, not with a quote or an apostrophe, and not
with a list or a map. -/
structure Starts (text : List Char) : Prop where
  noTruth : Text.after? "true".toList text = none ∧ Text.after? "false".toList text = none
  unquoted : text.head? ≠ some '"' ∧ text.head? ≠ some '\''
  unopened : text.head? ≠ some '[' ∧ text.head? ≠ some '\x7b'

/-- A text that the notation reads is shorter than what is read, or it is a plain value. -/
theorem text_of_value? {fuel : Nat} {s : String}
    (h : value? (fuel + 1) text = some (.text s, rest)) :
    s.length < text.length ∨
      (Starts (skipGap text) ∧
        plain (Text.trim ((skipGap text).takeWhile (!isSeparator ·))) = .text s ∧
        rest = skipGap ((skipGap text).dropWhile (!isSeparator ·))) := by
  have hshort : (skipGap text).length ≤ text.length := skipGap_sublist.length_le
  unfold value? at h
  generalize skipGap text = t at h hshort
  obtain ⟨⟨d, behind⟩, hread, hd⟩ := Option.map_eq_some_iff.1 h
  obtain ⟨rfl, rfl⟩ := Prod.mk.inj hd
  split at hread
  · cases hread
  · cases hread
  · next htrue hfalse =>
    split at hread
    · obtain ⟨_, -, hmap⟩ := Option.map_eq_some_iff.1 hread
      cases hmap
    · obtain ⟨_, -, hlist⟩ := Option.map_eq_some_iff.1 hread
      cases hlist
    · obtain ⟨⟨content, behind⟩, hquoted, hs⟩ := Option.map_eq_some_iff.1 hread
      obtain ⟨hs, -⟩ := Prod.mk.inj hs
      cases hs
      exact Or.inl ((length_quoted? hquoted).trans_le hshort)
    · split at hread
      · next c _ =>
        obtain ⟨hs, -⟩ := Prod.mk.inj (Option.some.inj hread)
        cases hs
        have hone : c.toString.length = 1 := by simp [Char.toString]
        simp only [List.length_cons] at hshort
        exact Or.inl (by omega)
      · cases hread
    · next hmap hlist hquote hapostrophe =>
      obtain ⟨hplain, rfl⟩ := Prod.mk.inj (Option.some.inj hread)
      refine Or.inr ⟨⟨⟨htrue, hfalse⟩, ⟨?_, ?_⟩, ?_, ?_⟩, hplain, rfl⟩ <;>
      · intro hhead
        obtain ⟨tail, rfl⟩ := List.head?_eq_some_iff.1 hhead
        simp_all

/-- A text that starts like a plain value is read as one, up to the first separator. -/
theorem value?_of_starts (fuel : Nat) (h : Starts (skipGap text)) :
    value? (fuel + 1) text = some (plain (Text.trim ((skipGap text).takeWhile (!isSeparator ·))),
      skipGap ((skipGap text).dropWhile (!isSeparator ·))) := by
  obtain ⟨⟨htrue, hfalse⟩, ⟨hquote, hapostrophe⟩, hlist, hmap⟩ := h
  unfold value?
  generalize skipGap text = t at *
  dsimp only
  rw [htrue, hfalse]
  dsimp only
  -- No other kind of value starts like this.
  split
  · exact absurd rfl hmap
  · exact absurd rfl hlist
  · exact absurd rfl hquote
  · exact absurd rfl hapostrophe
  · rfl

/-- The notation makes sense of the whole value. -/
def Legible (v : String) : Prop := ∃ d, value? (2 * v.length + 2) v.toList = some (d, [])

/-- A word that means nothing but itself: no blanks around it, no separators in it, no quote or
apostrophe and no truth value in front, and not a number. -/
structure Word (v : String) : Prop where
  trimmed : Text.trim v.toList = v.toList
  bare : ∀ c ∈ v.toList, isSeparator c = false
  unquoted : v.toList.head? ≠ some '"' ∧ v.toList.head? ≠ some '\''
  noTruth : Text.after? "true".toList v.toList = none ∧ Text.after? "false".toList v.toList = none
  noNumber : ¬ Number v.toList

variable {v : String}

theorem value_of_not_legible (h : ¬ Legible v) : value v = .text v := by
  unfold value
  split
  · next d hd => exact absurd ⟨d, hd⟩ h
  · rfl

theorem Word.starts (h : Word v) : Starts (skipGap v.toList) := by
  rw [skipGap_of_trimmed h.trimmed]
  refine ⟨h.noTruth, h.unquoted, ?_⟩
  constructor <;>
  · intro hhead
    have hbare := h.bare _ (List.mem_of_mem_head? hhead)
    cases hbare

theorem value_of_word (h : Word v) : value v = .text v := by
  have hwhole : v.toList.takeWhile (!isSeparator ·) = v.toList := by
    rw [List.takeWhile_eq_self_iff]
    intro c hc
    simp [h.bare c hc]
  have hnothing : v.toList.dropWhile (!isSeparator ·) = [] := by
    rw [List.dropWhile_eq_nil_iff]
    intro c hc
    simp [h.bare c hc]
  have hread := value?_of_starts (2 * v.length + 1) h.starts
  rw [skipGap_of_trimmed h.trimmed, hwhole, hnothing, h.trimmed] at hread
  unfold value
  rw [hread]
  show plain v.toList = .text v
  rw [plain_eq_text_iff, String.ofList_toList]
  exact ⟨h.noNumber, rfl⟩

/-- A value that is read as the text that it is is a word. -/
theorem word_of_legible (hlegible : Legible v) (h : value v = .text v) : Word v := by
  obtain ⟨d, hd⟩ := hlegible
  have hvalue : value v = d := by
    unfold value
    rw [hd]
  obtain rfl := hvalue.symm.trans h
  rcases text_of_value? hd with hshort | ⟨hstarts, hplain, -⟩
  · exact absurd hshort (by rw [String.length_toList]; exact lt_irrefl _)
  · obtain ⟨hnumber, hword⟩ := plain_eq_text_iff.1 hplain
    have htrim : Text.trim ((skipGap v.toList).takeWhile (!isSeparator ·)) = v.toList := by
      have hlist := congrArg String.toList hword
      rw [String.toList_ofList] at hlist
      exact hlist.symm
    -- What is cut off at either end is nothing, for all of the value is left.
    have htaken := @List.takeWhile_sublist _ (skipGap v.toList) (!isSeparator ·)
    have hleft : v.toList.Sublist ((skipGap v.toList).takeWhile (!isSeparator ·)) := by
      conv_lhs => rw [← htrim]
      exact trim_sublist
    have hgap : skipGap v.toList = v.toList :=
      skipGap_sublist.antisymm (hleft.trans htaken)
    rw [hgap] at hstarts htrim htaken hleft
    have hwhole : v.toList.takeWhile (!isSeparator ·) = v.toList := htaken.antisymm hleft
    rw [hgap, hwhole] at hnumber
    rw [hwhole] at htrim
    refine ⟨htrim, ?_, hstarts.unquoted, hstarts.noTruth, ?_⟩
    · intro c hc
      have hbare := List.takeWhile_eq_self_iff.1 hwhole c hc
      simpa using hbare
    · rwa [htrim] at hnumber

/-- The values that stand for themselves are those that the notation cannot make sense of, and
words. -/
theorem value_eq_text_iff : value v = .text v ↔ ¬ Legible v ∨ Word v := by
  constructor
  · intro h
    by_cases hlegible : Legible v
    · exact Or.inr (word_of_legible hlegible h)
    · exact Or.inl hlegible
  · rintro (h | h)
    · exact value_of_not_legible h
    · exact value_of_word h

end HomeEnergy.Override
