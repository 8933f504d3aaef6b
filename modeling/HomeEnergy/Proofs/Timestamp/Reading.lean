import HomeEnergy.Proofs.Decimal.Digits
import HomeEnergy.Proofs.Timestamp.Calendar

/-!
# Moments written and read again

A moment is written in universal time, each part of the date and the time with as many digits as it
is read with. The fraction of a second has as many digits as are needed. So a moment reads back as
itself, unless its year is beyond those that are read.

## Main results

* `Timestamp.takeNumber_run`, `Timestamp.takeYear_yearText`, `Timestamp.takeFraction_fraction` — the
  parts of a moment.
* `Timestamp.read_render` — what a moment reads back as.
-/

namespace HomeEnergy.Timestamp

/-! ## Numbers -/

/-- The digits of a number with zeros in front up to a width. -/
def pad (width n : Nat) : List Char :=
  List.replicate (width - (Nat.toDigits 10 n).length) '0' ++ Nat.toDigits 10 n

theorem toList_padded (width n : Nat) : (padded width n).toList = pad width n := by
  unfold padded pad
  rw [String.toList_append, String.toList_ofList, ← String.length_toList, Decimal.toList_toString]

theorem isRun_pad (width n : Nat) : IsRun (pad width n) := by
  intro c hc
  rcases List.mem_append.1 hc with hzero | hdigit
  · rw [List.eq_of_mem_replicate hzero]
    rfl
  · exact Decimal.isRun_toDigits n c hdigit

theorem value_pad (width n : Nat) : Decimal.value (pad width n) = n := by
  rw [pad, Decimal.value_append, Decimal.value_zeros, Nat.zero_mul, Nat.zero_add,
    Decimal.value_toDigits]

theorem pad_ne_nil (width n : Nat) : pad width n ≠ [] :=
  List.append_ne_nil_of_right_ne_nil _ Nat.toDigits_ne_nil

theorem length_pad {width n : Nat} (hwidth : 0 < width) (h : n < 10 ^ width) :
    (pad width n).length = width := by
  have hlength := (Nat.length_toDigits_le_iff (b := 10) (by decide) hwidth).2 h
  rw [pad, List.length_append, List.length_replicate]
  omega

theorem isBlank_of_isDigit {c : Char} (h : c.isDigit = true) : Text.isBlank c = false := by
  obtain ⟨hlow, hhigh⟩ := Char.isDigit_iff_toNat.1 h
  simp only [Text.isBlank, Bool.or_eq_false_iff, Bool.and_eq_false_iff, decide_eq_false_iff_not]
  have h0 : '0'.toNat = 48 := rfl
  have h9 : '9'.toNat = 57 := rfl
  omega

/-- Digits are not blanks. -/
theorem dropBlank_run {ds rest : List Char} (h : IsRun ds) (hne : ds ≠ []) :
    Text.dropBlank (ds ++ rest) = ds ++ rest := by
  obtain ⟨c, more, rfl⟩ := List.exists_cons_of_ne_nil hne
  exact List.dropWhile_cons_of_neg (by
    rw [isBlank_of_isDigit (h c List.mem_cons_self)]
    decide)

/-- A number of up to so many digits is taken off as a whole. -/
theorem takeNumber_run {width : Nat} {ds rest : List Char} (h : IsRun ds) (hne : ds ≠ [])
    (hwidth : ds.length ≤ width) (hend : ds.length = width ∨ NoDigit rest) :
    takeNumber width (ds ++ rest) = some (Decimal.value ds, rest) := by
  have htake : ((ds ++ rest).take width).takeWhile Char.isDigit = ds := by
    rw [List.take_append, List.take_of_length_le hwidth, List.takeWhile_append_of_pos h]
    have hrest : (rest.take (width - ds.length)).takeWhile Char.isDigit = [] := by
      rcases hend with heq | hno
      · rw [heq, Nat.sub_self]
        rfl
      · cases rest with
        | nil => simp
        | cons c more =>
            cases hw : width - ds.length with
            | zero => rfl
            | succ w =>
                rw [List.take_succ_cons, List.takeWhile_cons_of_neg]
                rw [hno c rfl]
                decide
    rw [hrest, List.append_nil]
  unfold takeNumber
  rw [dropBlank_run h hne]
  dsimp only
  rw [htake, if_neg hne, List.drop_left]

/-- A number of two digits. -/
theorem takeNumber_two {n : Nat} (h : n < 100) (rest : List Char) :
    takeNumber 2 (pad 2 n ++ rest) = some (n, rest) := by
  have hlength : (pad 2 n).length = 2 := length_pad (by decide) h
  rw [takeNumber_run (isRun_pad 2 n) (pad_ne_nil 2 n) (Nat.le_of_eq hlength) (.inl hlength),
    value_pad]

/-! ## Years -/

/-- The text of a year. -/
def yearText (year : Int) : List Char :=
  if 0 ≤ year ∧ year ≤ 9999 then pad 4 year.toNat
  else (if year < 0 then '-' else '+') :: pad 4 year.natAbs

theorem takeYear_yearText (year : Int) {rest : List Char} (h : NoDigit rest) :
    takeYear (yearText year ++ rest) = some (year, rest) := by
  have hsigned : ∀ n : Nat, takeNumber (pad 4 n ++ rest).length (pad 4 n ++ rest)
      = some (n, rest) := by
    intro n
    rw [takeNumber_run (isRun_pad 4 n) (pad_ne_nil 4 n) (by rw [List.length_append]; omega)
      (.inr h), value_pad]
  unfold yearText
  split
  · rename_i hrange
    have hlength : (pad 4 year.toNat).length = 4 := length_pad (by decide) (by omega)
    have hnumber : takeNumber 4 (pad 4 year.toNat ++ rest) = some (year.toNat, rest) := by
      rw [takeNumber_run (isRun_pad 4 _) (pad_ne_nil 4 _) (Nat.le_of_eq hlength) (.inl hlength),
        value_pad]
    have hyear : (year.toNat : Int) = year := Int.toNat_of_nonneg hrange.1
    obtain ⟨c, more, hdigits⟩ := List.exists_cons_of_ne_nil (pad_ne_nil 4 year.toNat)
    have hc := isRun_pad 4 year.toNat c (hdigits ▸ List.mem_cons_self)
    unfold takeYear
    rw [dropBlank_run (isRun_pad 4 _) (pad_ne_nil 4 _)]
    split
    · rename_i heq
      rw [hdigits] at heq
      cases heq
      cases hc
    · rename_i heq
      rw [hdigits] at heq
      cases heq
      cases hc
    · rw [hnumber]
      exact congrArg some (Prod.ext hyear rfl)
  · split
    · rename_i hneg
      show (takeNumber (pad 4 year.natAbs ++ rest).length (pad 4 year.natAbs ++ rest)).map _ = _
      rw [hsigned]
      exact congrArg some (Prod.ext (by dsimp only; omega) rfl)
    · rename_i hrange hneg
      show (takeNumber (pad 4 year.natAbs ++ rest).length (pad 4 year.natAbs ++ rest)).map _ = _
      rw [hsigned]
      exact congrArg some (Prod.ext (by dsimp only; omega) rfl)

/-! ## Fractions of a second -/

theorem takeFraction_run {ds rest : List Char} (h : IsRun ds) (hne : ds ≠ [])
    (hlength : ds.length ≤ 9) (hrest : NoDigit rest) :
    takeFraction ('.' :: (ds ++ rest))
      = some (Decimal.value ds * 10 ^ (9 - ds.length), rest) := by
  have hdigits : (ds ++ rest).takeWhile Char.isDigit = ds :=
    congrArg Prod.fst (takeDigits_of_run h hrest)
  show (if (ds ++ rest).takeWhile Char.isDigit = [] then none
    else some (Decimal.value (((ds ++ rest).takeWhile Char.isDigit).take 9)
        * 10 ^ (9 - (((ds ++ rest).takeWhile Char.isDigit).take 9).length),
      (ds ++ rest).drop ((ds ++ rest).takeWhile Char.isDigit).length)) = _
  rw [hdigits, if_neg hne, List.take_of_length_le hlength, List.drop_left]

/-- As many digits as are needed are enough to tell the nanoseconds. -/
theorem takeFraction_fraction {nanos : Nat} (h : nanos < 1000000000) {rest : List Char}
    (hrest : NoDigit rest) (hpoint : rest.head? ≠ some '.') :
    takeFraction ((fraction nanos).toList ++ rest) = some (nanos, rest) := by
  have hdigits : ∀ width n : Nat, 0 < width → width ≤ 9 → n < 10 ^ width →
      n * 10 ^ (9 - width) = nanos →
      takeFraction (("." ++ padded width n).toList ++ rest) = some (nanos, rest) := by
    intro width n hpos hwidth hn hvalue
    have hlength := length_pad hpos hn
    rw [String.toList_append, toList_padded]
    show takeFraction ('.' :: (pad width n ++ rest)) = _
    rw [takeFraction_run (isRun_pad width n) (pad_ne_nil width n) (by omega) hrest, value_pad,
      hlength, hvalue]
  unfold fraction
  split
  · rename_i hzero
    show takeFraction rest = _
    unfold takeFraction
    split
    · exact absurd rfl hpoint
    · rw [hzero]
  · split
    · exact hdigits 3 _ (by decide) (by decide) (by omega) (by omega)
    · split
      · exact hdigits 6 _ (by decide) (by decide) (by omega) (by omega)
      · exact hdigits 9 _ (by decide) (by decide) (by omega) (by omega)

/-! ## Moments -/

theorem takeMark_cons {mark : Char} (h : Text.isBlank mark = false) (rest : List Char) :
    takeMark mark (mark :: rest) = some rest := by
  unfold takeMark Text.dropBlank
  rw [List.dropWhile_cons_of_neg (by rw [h]; decide)]
  exact Text.after?_append [mark] rest

/-- The text of a moment, part by part. -/
theorem toList_written (t : Timestamp) (fraction : String) :
    (t.written fraction).toList =
      yearText (Date.ofDays (t.seconds / 86400)).year ++ '-'
        :: (pad 2 (Date.ofDays (t.seconds / 86400)).month ++ '-'
        :: (pad 2 (Date.ofDays (t.seconds / 86400)).day ++ 'T'
        :: (pad 2 ((t.seconds % 86400).toNat / 3600) ++ ':'
        :: (pad 2 ((t.seconds % 86400).toNat / 60 % 60) ++ ':'
        :: (pad 2 ((t.seconds % 86400).toNat % 60) ++ (fraction.toList ++ ['Z'])))))) := by
  obtain ⟨date, hdate⟩ : ∃ date, date = Date.ofDays (t.seconds / 86400) := ⟨_, rfl⟩
  obtain ⟨second, hsecond⟩ : ∃ second, second = (t.seconds % 86400).toNat := ⟨_, rfl⟩
  have hyear : (if 0 ≤ date.year ∧ date.year ≤ 9999 then padded 4 date.year.toNat
      else (if date.year < 0 then "-" else "+") ++ padded 4 date.year.natAbs).toList
        = yearText date.year := by
    unfold yearText
    split
    · exact toList_padded _ _
    · rw [String.toList_append, toList_padded]
      split <;> rfl
  unfold written
  dsimp only
  rw [← hdate, ← hsecond]
  simp only [String.toList_append, hyear, toList_padded, List.append_assoc]
  rfl

theorem bind_of_eq {α β : Type} {x : Option α} {a : α} (h : x = some a) (f : α → Option β) :
    (x >>= f) = f a := by
  rw [h]
  rfl

/-- A moment reads back as itself if its year is not too far away. -/
theorem read_render {t : Timestamp} (h : t.nanos < 1000000000) :
    read t.render =
      if (Date.ofDays (t.seconds / 86400)).year.natAbs ≤ 262142 then some t else none := by
  obtain ⟨hexists, hdays⟩ := Date.ofDays_spec (t.seconds / 86400)
  obtain ⟨date, hdate⟩ : ∃ date, date = Date.ofDays (t.seconds / 86400) := ⟨_, rfl⟩
  obtain ⟨second, hsecond⟩ : ∃ second, second = (t.seconds % 86400).toNat := ⟨_, rfl⟩
  rw [← hdate] at hexists hdays ⊢
  have hmonth := hexists.month
  have hday := hexists.day
  have hlast := hexists.day_le
  have hmark : Text.isBlank '-' = false ∧ Text.isBlank ':' = false := by decide
  have hZ : NoDigit ['Z'] := by
    rintro c ⟨⟩
    rfl
  have hoffset : takeOffset ['Z'] = some (0, []) := rfl
  unfold read render
  rw [toList_written, ← hdate, ← hsecond]
  -- part by part, each followed by the rest of the text
  refine (bind_of_eq (takeYear_yearText date.year (by rintro c ⟨⟩; rfl)) _).trans ?_
  refine (bind_of_eq (takeMark_cons hmark.1 _) _).trans ?_
  refine (bind_of_eq (takeNumber_two (show date.month < 100 by omega) _) _).trans ?_
  refine (bind_of_eq (takeMark_cons hmark.1 _) _).trans ?_
  refine (bind_of_eq (takeNumber_two (show date.day < 100 by omega) _) _).trans ?_
  refine (bind_of_eq rfl _).trans ?_
  refine (bind_of_eq (takeNumber_two (show second / 3600 < 100 by omega) _) _).trans ?_
  refine (bind_of_eq (takeMark_cons hmark.2 _) _).trans ?_
  refine (bind_of_eq (takeNumber_two (show second / 60 % 60 < 100 by omega) _) _).trans ?_
  refine (bind_of_eq (takeMark_cons hmark.2 _) _).trans ?_
  refine (bind_of_eq (takeNumber_two (show second % 60 < 100 by omega) _) _).trans ?_
  refine (bind_of_eq (takeFraction_fraction h hZ (by decide)) _).trans ?_
  refine (bind_of_eq hoffset _).trans ?_
  -- the parts are in range, all but the year
  have hseconds : Date.toDays ⟨date.year, date.month, date.day⟩ * 86400 +
      (((second / 3600 : Nat) : Int) * 3600 + ((second / 60 % 60 : Nat) : Int) * 60
        + ((min (second % 60) 59 : Nat) : Int)) - 0 = t.seconds := by
    rw [hdays]
    omega
  have hnanos : (if second % 60 = 60 then t.nanos + 1000000000 else t.nanos) = t.nanos :=
    if_neg (by omega)
  dsimp only [Text.dropBlank_nil]
  rw [hseconds, hnanos]
  by_cases hyear : date.year.natAbs ≤ 262142
  · rw [if_pos hyear]
    refine (if_neg ?_).trans rfl
    simp only [ne_eq, not_true_eq_false, false_or]
    omega
  · rw [if_neg hyear]
    refine if_pos ?_
    simp only [ne_eq, not_true_eq_false, false_or]
    omega

end HomeEnergy.Timestamp
