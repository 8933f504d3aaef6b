import HomeEnergy.Timestamp

/-!
# The calendar

Days are counted in eras of four hundred years, and years from March on. The year of a day is found
by a count of the days that are no leap days. That count never falls, so it is enough to look at the
days on which a year starts; there are four hundred of them, and as many of the days in a year.

## Main results

* `Date.yearStart_le` — the year of a day of an era.
* `Date.ofDays_spec` — every day has a date, which stands for that day.
-/

namespace HomeEnergy.Date

/-- The days of an era of four hundred years before one of its years. -/
def yearStart (y : Int) : Int := 365 * y + y / 4 - y / 100 + y / 400

/-- The days of an era up to a day, but for leap days. -/
def ordinary (n : Int) : Int := n - n / 1460 + n / 36524 - n / 146096

theorem ordinary_le_succ {n : Int} (hlow : 0 ≤ n) (hhigh : n < 146096) :
    ordinary n ≤ ordinary (n + 1) := by
  unfold ordinary
  omega

theorem ordinary_mono {n : Int} (k : Nat) (hlow : 0 ≤ n) (hhigh : n + k < 146097) :
    ordinary n ≤ ordinary (n + k) := by
  induction k with
  | zero => exact Int.le_of_eq (by rw [Int.natCast_zero, Int.add_zero])
  | succ k ih =>
      have hstep := ordinary_le_succ (n := n + k) (by omega) (by omega)
      have hall := ih (by omega)
      rw [Int.natCast_succ, ← Int.add_assoc]
      exact Int.le_trans hall hstep

/-- The days before a year of an era are days of the years before it. -/
theorem ordinary_yearStart : ∀ y : Fin 401,
    (0 < y.1 → ordinary (yearStart y - 1) < 365 * (y : Int)) ∧
      365 * (y : Int) ≤ ordinary (yearStart y) := by
  decide +kernel

theorem ordinary_bounds {n : Int} (hlow : 0 ≤ n) (hhigh : n < 146097) :
    0 ≤ ordinary n / 365 ∧ ordinary n / 365 < 400 := by
  have hfirst := ordinary_mono n.toNat (n := 0) (by decide) (by omega)
  have hlast := ordinary_mono (146096 - n.toNat) hlow (by omega)
  rw [show (0 : Int) + n.toNat = n by omega] at hfirst
  rw [show n + ((146096 - n.toNat : Nat) : Int) = 146096 by omega] at hlast
  have hzero : ordinary 0 = 0 := by decide
  have hend : ordinary 146096 = 145999 := by decide
  omega

/-- The year of a day of an era. -/
theorem yearStart_le {n : Int} (hlow : 0 ≤ n) (hhigh : n < 146097) :
    yearStart (ordinary n / 365) ≤ n ∧ n < yearStart (ordinary n / 365 + 1) := by
  obtain ⟨hpos, hlt⟩ := ordinary_bounds hlow hhigh
  obtain ⟨y, hy⟩ : ∃ y : Nat, ordinary n / 365 = y := ⟨(ordinary n / 365).toNat, by omega⟩
  have hstart : 0 ≤ yearStart y ∧ yearStart y ≤ 146097 := by
    unfold yearStart
    omega
  rw [hy]
  constructor
  · refine Int.not_lt.1 fun hbefore => ?_
    have hmono := ordinary_mono (yearStart y - 1 - n).toNat hlow (by omega)
    rw [show n + ((yearStart y - 1 - n).toNat : Int) = yearStart y - 1 by omega] at hmono
    have hpos : 0 < y := by
      refine Nat.pos_of_ne_zero fun hzero => ?_
      have hfirst : yearStart 0 = 0 := by decide
      rw [hzero, Int.natCast_zero, hfirst] at hbefore
      omega
    have hyear : ordinary (yearStart y - 1) < 365 * y :=
      (ordinary_yearStart ⟨y, by omega⟩).1 hpos
    omega
  · refine Int.not_le.1 fun hbeyond => ?_
    have hyear : 365 * ((y : Int) + 1) ≤ ordinary (yearStart (y + 1)) :=
      (ordinary_yearStart ⟨y + 1, by omega⟩).2
    have hmono := ordinary_mono (n - yearStart (y + 1)).toNat (n := yearStart (y + 1)) ?_ (by omega)
    · rw [show yearStart (y + 1) + ((n - yearStart (y + 1)).toNat : Int) = n by omega] at hmono
      omega
    · unfold yearStart
      omega

/-! ## Months -/

/-- The month and the day of a day of a year that starts in March. -/
theorem month_day : ∀ n : Fin 366,
    let shifted : Int := (5 * (n : Int) + 2) / 153
    let month := if shifted < 10 then shifted + 3 else shifted - 9
    let day := (n : Int) - (153 * shifted + 2) / 5 + 1
    1 ≤ month ∧ month ≤ 12 ∧ 1 ≤ day ∧
      (day ≤ daysIn 2001 month.toNat ∨ n.1 = 365 ∧ month = 2 ∧ day = 29) ∧
      (if month ≤ 2 then month + 9 else month - 3) = shifted := by
  decide +kernel

/-- Whether there is such a date. -/
structure Exists (d : Date) : Prop where
  month : 1 ≤ d.month ∧ d.month ≤ 12
  day : 1 ≤ d.day ∧ d.day ≤ daysIn d.year d.month

theorem Exists.day_le {d : Date} (h : d.Exists) : d.day ≤ 31 := by
  have hlast : daysIn d.year d.month ≤ 31 := by
    unfold daysIn
    split
    · split <;> decide
    · split <;> decide
  exact Nat.le_trans h.day.2 hlast

theorem daysIn_le (year : Int) (month : Nat) : daysIn 2001 month ≤ daysIn year month := by
  unfold daysIn
  split
  · split <;> split <;> simp_all [isLeap]
  · exact Nat.le_refl _

theorem isLeap_era (year era : Int) : isLeap (year + era * 400) = isLeap year := by
  have hfour : (year + era * 400) % 4 = year % 4 := by omega
  have hhundred : (year + era * 400) % 100 = year % 100 := by omega
  have hera : (year + era * 400) % 400 = year % 400 := Int.add_mul_emod_self_right ..
  rw [isLeap, isLeap, hfour, hhundred, hera]

/-- A year of 366 days, counted from March, ends in a leap year. -/
theorem isLeap_of_long : ∀ y : Fin 400,
    366 ≤ yearStart (y + 1) - (365 * (y : Int) + y / 4 - y / 100) →
      isLeap ((y : Int) + 1) = true := by
  decide +kernel

/-- The year, counted from March, and the day of it that a day falls on. -/
theorem year_day (days : Int) : ∃ era y : Int, ∃ k : Nat,
    0 ≤ y ∧ y < 400 ∧ k < 366 ∧ (k = 365 → isLeap (y + era * 400 + 1) = true) ∧
      era * 146097 + (365 * y + y / 4 - y / 100) + k = days + 719468 ∧
      ofDays days =
        let shifted : Int := (5 * (k : Int) + 2) / 153
        let month := if shifted < 10 then shifted + 3 else shifted - 9
        ⟨if month ≤ 2 then y + era * 400 + 1 else y + era * 400, month.toNat,
          ((k : Int) - (153 * shifted + 2) / 5 + 1).toNat⟩ := by
  obtain ⟨era, hera⟩ : ∃ era, era = (days + 719468) / 146097 := ⟨_, rfl⟩
  obtain ⟨n, hn⟩ : ∃ n, n = days + 719468 - era * 146097 := ⟨_, rfl⟩
  have hlow : 0 ≤ n := by omega
  have hhigh : n < 146097 := by omega
  obtain ⟨hpos, hlt⟩ := ordinary_bounds hlow hhigh
  obtain ⟨hfrom, hto⟩ := yearStart_le hlow hhigh
  obtain ⟨y, hy⟩ : ∃ y, y = ordinary n / 365 := ⟨_, rfl⟩
  rw [← hy] at hpos hlt hfrom hto
  have hyear : yearStart y = 365 * y + y / 4 - y / 100 := by
    unfold yearStart
    omega
  obtain ⟨k, hk⟩ : ∃ k : Nat, (k : Int) = n - (365 * y + y / 4 - y / 100) :=
    ⟨(n - (365 * y + y / 4 - y / 100)).toNat, by omega⟩
  refine ⟨era, y, k, hpos, hlt, ?_, fun hlong => ?_, by omega, ?_⟩
  · have hfour : (y + 1) / 4 ≤ y / 4 + 1 := by omega
    have hrest : (y + 1) / 400 + y / 100 ≤ (y + 1) / 100 := by
      rcases Int.lt_or_le y 399 with hbefore | hlast
      · have hfuture : (y + 1) / 400 = 0 := Int.ediv_eq_zero_of_lt (by omega) (by omega)
        have hcentury : y / 100 ≤ (y + 1) / 100 := Int.ediv_le_ediv (by decide) (by omega)
        omega
      · obtain rfl : y = 399 := by omega
        decide
    unfold yearStart at hto
    omega
  · obtain ⟨m, rfl⟩ := Int.eq_ofNat_of_zero_le hpos
    have hleap := isLeap_of_long ⟨m, by omega⟩
    rw [Int.add_right_comm, isLeap_era]
    exact hleap (by dsimp only; omega)
  · have hordinary : (n - n / 1460 + n / 36524 - n / 146096) / 365 = y := hy.symm
    unfold ofDays
    dsimp only
    rw [← hera, ← hn, hordinary, ← hk]

/-- The day of a date, by its year and its month counted from March. -/
theorem toDays_eq {d : Date} {y era shifted : Int}
    (hyear : (if d.month ≤ 2 then d.year - 1 else d.year) = y + era * 400)
    (hmonth : (if d.month ≤ 2 then (d.month : Int) + 9 else (d.month : Int) - 3) = shifted)
    (hpos : 0 ≤ y) (hlt : y < 400) :
    toDays d = era * 146097 + y * 365 + y / 4 - y / 100 + ((153 * shifted + 2) / 5 + d.day - 1)
      - 719468 := by
  have hera : (y + era * 400) / 400 = era := by
    rw [Int.add_mul_ediv_right _ _ (by decide), Int.ediv_eq_zero_of_lt hpos hlt, Int.zero_add]
  unfold toDays
  dsimp only
  rw [hyear, hmonth, hera, Int.add_sub_cancel]

/-- There are only dates in the calendar, and each stands for its day. -/
theorem ofDays_spec (days : Int) : (ofDays days).Exists ∧ toDays (ofDays days) = days := by
  obtain ⟨era, y, k, hpos, hlt, hk, hleap, hdays, heq⟩ := year_day days
  have hmonth := month_day ⟨k, hk⟩
  obtain ⟨shifted, hshifted⟩ : ∃ shifted : Int, shifted = (5 * (k : Int) + 2) / 153 := ⟨_, rfl⟩
  obtain ⟨month, hm⟩ : ∃ month, month = if shifted < 10 then shifted + 3 else shifted - 9 :=
    ⟨_, rfl⟩
  obtain ⟨day, hd⟩ : ∃ day, day = (k : Int) - (153 * shifted + 2) / 5 + 1 := ⟨_, rfl⟩
  dsimp only at heq hmonth
  rw [← hshifted, ← hm, ← hd] at heq hmonth
  obtain ⟨hfirst, hlast, hone, hmost, hback⟩ := hmonth
  rw [heq]
  constructor
  · refine ⟨⟨by dsimp only; omega, by dsimp only; omega⟩, by dsimp only; omega, ?_⟩
    dsimp only
    rcases hmost with hmost | ⟨rfl, rfl, rfl⟩
    · have hle := daysIn_le (if month ≤ 2 then y + era * 400 + 1 else y + era * 400) month.toNat
      omega
    · have hfeb : daysIn (y + era * 400 + 1) 2 = 29 := by
        rw [daysIn, if_pos rfl, hleap rfl, if_pos rfl]
      rw [if_pos (by decide)]
      exact Nat.le_of_eq hfeb.symm
  · have hyear : (if month.toNat ≤ 2
          then (if month ≤ 2 then y + era * 400 + 1 else y + era * 400) - 1
          else if month ≤ 2 then y + era * 400 + 1 else y + era * 400) = y + era * 400 := by
      split <;> split <;> omega
    have hshift : (if month.toNat ≤ 2 then (month.toNat : Int) + 9 else (month.toNat : Int) - 3)
        = shifted := by
      rw [← hback]
      split <;> split <;> omega
    rw [toDays_eq hyear hshift hpos hlt]
    dsimp only
    omega

end HomeEnergy.Date
