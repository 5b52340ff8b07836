import DvbReceiver.Calendar.Date
import Mathlib.Logic.Function.Iterate
import Mathlib.Tactic.IntervalCases

/-!
# The calendar, day by day

`Date.tomorrow` is the Gregorian rule: a day is followed by the next of its month, the last of a
month by the first of the next, the last of December by New Year's Day. The numbering of days is
that rule and nothing else: `Date.ofDayNumber` starts from 17 November 1858 and goes on by
`Date.tomorrow` (`Date.ofDayNumber_succ`, `Date.ofDayNumber_natCast`), and `Date.dayNumber` takes a
date back to its number (`Date.dayNumber_ofDayNumber`).

A date is placed in its year from March to March (`Date.sinceMarch`), and there in a month
(`Date.inMonth`). So the leap day comes last, and the days before a month do not depend on the year.
-/

namespace DvbReceiver

namespace Date

/-- The next day. -/
def tomorrow (date : Date) : Date :=
  if date.day < daysInMonth date.year date.month then { date with day := date.day + 1 }
  else if date.month < 12 then { date with month := date.month + 1, day := 1 }
  else { year := date.year + 1, month := 1, day := 1 }

/-- The day with the number 0. -/
def dayZero : Date := ⟨1858, 11, 17⟩

/-! ## Years from March to March -/

/-- The days from 1 March of year 0 to 1 March of a year. -/
def daysToYear (year : Int) : Int := 365 * year + year / 4 - year / 100 + year / 400

/-- The days from 1 March of a year to 1 March of the next. -/
def daysFromMarch (year : Int) : Nat := if IsLeap (year + 1) then 366 else 365

theorem daysFromMarch_le (year : Int) : daysFromMarch year ≤ 366 := by
  unfold daysFromMarch
  split <;> omega

theorem daysFromMarch_ge (year : Int) : 365 ≤ daysFromMarch year := by
  unfold daysFromMarch
  split <;> omega

theorem daysToYear_succ (year : Int) :
    daysToYear (year + 1) = daysToYear year + daysFromMarch year := by
  by_cases h : IsLeap (year + 1)
  · rw [daysFromMarch, if_pos h]
    unfold IsLeap at h
    unfold daysToYear
    omega
  · rw [daysFromMarch, if_neg h]
    unfold IsLeap at h
    unfold daysToYear
    omega

theorem daysToYear_mono {year later : Int} (h : year ≤ later) :
    daysToYear year ≤ daysToYear later := by
  unfold daysToYear
  omega

/-- A day lies in one year only. -/
theorem eq_of_daysToYear_add_eq {year year' : Int} {days days' : Nat}
    (h : days < daysFromMarch year) (h' : days' < daysFromMarch year')
    (heq : daysToYear year + days = daysToYear year' + days') : year = year' ∧ days = days' := by
  have hyear : year = year' := by
    rcases Int.lt_trichotomy year year' with hlt | heq | hgt
    · have hle := daysToYear_mono (Int.add_one_le_iff.2 hlt)
      rw [daysToYear_succ] at hle
      omega
    · exact heq
    · have hle := daysToYear_mono (Int.add_one_le_iff.2 hgt)
      rw [daysToYear_succ] at hle
      omega
  subst hyear
  exact ⟨rfl, by omega⟩

/-! ## Months from March on -/

/-- The length of a month, by the months passed since March. February takes what is left. -/
def monthLength (year : Int) (passed : Nat) : Nat :=
  if passed = 11 then daysFromMarch year - daysToMonth 11
  else daysToMonth (passed + 1) - daysToMonth passed

/-- The date so many days after the first of a month, by the months passed since March. -/
def inMonth (year : Int) (passed days : Nat) : Date where
  year := if passed < 10 then year else year + 1
  month := if passed < 10 then passed + 3 else passed - 9
  day := days + 1

/-- The date so many days after 1 March of a year. -/
def sinceMarch (year : Int) (days : Nat) : Date :=
  let passed := (5 * days + 2) / 153
  inMonth year passed (days - daysToMonth passed)

theorem daysInMonth_inMonth (year : Int) {passed : Nat} (h : passed < 12) (days : Nat) :
    daysInMonth (inMonth year passed days).year (inMonth year passed days).month =
      monthLength year passed := by
  have hfebruary : daysInMonth (year + 1) 2 = daysFromMarch year - daysToMonth 11 := by
    by_cases h : IsLeap (year + 1) <;> simp [daysInMonth, daysFromMarch, h, daysToMonth]
  interval_cases passed <;> first | exact hfebruary | rfl

/-- A day is followed by the next of its month, or by the first of the next month. -/
theorem tomorrow_inMonth (year : Int) {passed : Nat} (h : passed < 12) (days : Nat) :
    (inMonth year passed days).tomorrow =
      if days + 1 < monthLength year passed then inMonth year passed (days + 1)
      else if passed < 11 then inMonth year (passed + 1) 0
      else inMonth (year + 1) 0 0 := by
  rw [tomorrow, daysInMonth_inMonth year h]
  by_cases hmonth : days + 1 < monthLength year passed
  · rw [if_pos hmonth]
    exact if_pos hmonth
  · rw [if_neg hmonth]
    refine (if_neg hmonth).trans ?_
    interval_cases passed <;> simp [inMonth]

theorem sinceMarch_daysToMonth_add (year : Int) {passed days : Nat}
    (hdays : days < monthLength year passed) :
    sinceMarch year (daysToMonth passed + days) = inMonth year passed days := by
  have hle := daysFromMarch_le year
  have hpassed : (5 * (daysToMonth passed + days) + 2) / 153 = passed := by
    unfold monthLength daysToMonth at *
    split at hdays <;> omega
  rw [sinceMarch, hpassed, Nat.add_sub_cancel_left]

theorem exists_daysToMonth_add (year : Int) {days : Nat} (h : days < daysFromMarch year) :
    ∃ passed < 12, ∃ rest < monthLength year passed, days = daysToMonth passed + rest := by
  have hle := daysFromMarch_le year
  refine ⟨(5 * days + 2) / 153, by omega, days - daysToMonth ((5 * days + 2) / 153), ?_, ?_⟩
  · unfold monthLength daysToMonth
    split <;> omega
  · unfold daysToMonth
    omega

theorem daysToMonth_add_lt (year : Int) {passed days : Nat} (h : passed < 12)
    (hdays : days < monthLength year passed) : daysToMonth passed + days < daysFromMarch year := by
  have hge := daysFromMarch_ge year
  unfold monthLength daysToMonth at *
  split at hdays <;> omega

theorem tomorrow_sinceMarch (year : Int) {days : Nat} (h : days < daysFromMarch year) :
    (sinceMarch year days).tomorrow =
      if days + 1 < daysFromMarch year then sinceMarch year (days + 1)
      else sinceMarch (year + 1) 0 := by
  obtain ⟨passed, hpassed, rest, hrest, rfl⟩ := exists_daysToMonth_add year h
  rw [sinceMarch_daysToMonth_add year hrest, tomorrow_inMonth year hpassed]
  by_cases hmonth : rest + 1 < monthLength year passed
  · rw [if_pos hmonth, Nat.add_assoc, if_pos (daysToMonth_add_lt year hpassed hmonth),
      sinceMarch_daysToMonth_add year hmonth]
  rw [if_neg hmonth]
  by_cases hlast : passed < 11
  · have hnext : daysToMonth passed + rest + 1 = daysToMonth (passed + 1) + 0 := by
      unfold monthLength daysToMonth at *
      rw [if_neg (by omega)] at *
      omega
    have hpos : 0 < monthLength year (passed + 1) := by
      have hge := daysFromMarch_ge year
      unfold monthLength daysToMonth
      split <;> omega
    rw [if_pos hlast, hnext, if_pos (daysToMonth_add_lt year (by omega) hpos),
      sinceMarch_daysToMonth_add year hpos]
  · obtain rfl : passed = 11 := by omega
    have hyear : ¬daysToMonth 11 + rest + 1 < daysFromMarch year := by
      rw [monthLength, if_pos rfl] at hmonth
      omega
    rw [if_neg hlast, if_neg hyear]
    rfl

/-! ## Numbers of days -/

theorem dayNumber_sinceMarch (year : Int) {days : Nat} (h : days < daysFromMarch year) :
    (sinceMarch year days).dayNumber = daysToYear year + days - epoch := by
  obtain ⟨passed, hpassed, rest, hrest, rfl⟩ := exists_daysToMonth_add year h
  rw [sinceMarch_daysToMonth_add year hrest]
  unfold dayNumber daysToYear
  interval_cases passed <;> simp [inMonth, monthsSinceMarch] <;> omega

/-- The days to a year that is the given one of its four, of its century and of its 400. -/
theorem daysToYear_of_parts (era : Int) {century leap year : Nat} (hcentury : century ≤ 3)
    (hleap : leap ≤ 24) (hyear : year ≤ 3) :
    daysToYear (400 * era + (100 * century + 4 * leap + year : Nat)) =
      146097 * era + (36524 * century + 1461 * leap + 365 * year : Nat) := by
  have h₄ : (400 * era + (100 * century + 4 * leap + year : Nat)) / 4 =
      100 * era + (25 * century + leap : Nat) := by omega
  have h₁₀₀ : (400 * era + (100 * century + 4 * leap + year : Nat)) / 100 =
      4 * era + century := by omega
  have h₄₀₀ : (400 * era + (100 * century + 4 * leap + year : Nat)) / 400 = era := by omega
  rw [daysToYear, h₄, h₁₀₀, h₄₀₀]
  push_cast
  omega

/-- Every number is that of a day of one of the years that begin in March. -/
theorem exists_ofDayNumber (number : Int) :
    ∃ year days, days < daysFromMarch year ∧ number + epoch = daysToYear year + days ∧
      ofDayNumber number = sinceMarch year days := by
  unfold ofDayNumber
  extract_lets count era inEra century inCentury leap inLeap year inYear passed month
  have hera : era = count / 146097 := rfl
  have hinEra : (inEra : Int) = count % 146097 :=
    Int.toNat_of_nonneg (Int.emod_nonneg _ (by decide))
  -- the last century of an era and the last year of four have a day more: hence the minima
  have hcentury : century = min (inEra / 36524) 3 := rfl
  have hinCentury : inCentury = inEra - 36524 * century := rfl
  have hleap : leap = inCentury / 1461 := rfl
  have hinLeap : inLeap = inCentury % 1461 := rfl
  have hyear : year = min (inLeap / 365) 3 := rfl
  have hinYear : inYear = inLeap - 365 * year := rfl
  refine ⟨400 * era + (100 * century + 4 * leap + year : Nat), inYear, ?_, ?_, ?_⟩
  · clear_value count era inEra century inCentury leap inLeap year inYear
    by_cases h : IsLeap (400 * era + (100 * century + 4 * leap + year : Nat) + 1)
    · rw [daysFromMarch, if_pos h]
      omega
    · rw [daysFromMarch, if_neg h]
      unfold IsLeap at h
      omega
  · change count = _
    clear_value count era inEra century inCentury leap inLeap year inYear
    rw [daysToYear_of_parts era (by omega) (by omega) (by omega)]
    omega
  · have hpassed : passed < 12 := by
      have heq : passed = (5 * inYear + 2) / 153 := rfl
      clear_value count era inEra century inCentury leap inLeap year inYear passed
      omega
    by_cases hlt : passed < 10
    · have hmonth : month = passed + 3 := if_pos hlt
      rw [hmonth, if_neg (by omega), Int.add_zero]
      simp [sinceMarch, inMonth, passed, hlt]
    · have hmonth : month = passed - 9 := if_neg hlt
      rw [hmonth, if_pos (by omega)]
      simp [sinceMarch, inMonth, passed, hlt]

theorem dayNumber_ofDayNumber (number : Int) : (ofDayNumber number).dayNumber = number := by
  obtain ⟨year, days, hdays, hnumber, heq⟩ := exists_ofDayNumber number
  rw [heq, dayNumber_sinceMarch year hdays]
  omega

theorem sinceMarch_eq_ofDayNumber {year : Int} {days : Nat} (h : days < daysFromMarch year)
    {number : Int} (hnumber : number + epoch = daysToYear year + days) :
    sinceMarch year days = ofDayNumber number := by
  obtain ⟨year', days', hdays', hnumber', heq⟩ := exists_ofDayNumber number
  obtain ⟨rfl, rfl⟩ := eq_of_daysToYear_add_eq h hdays' (hnumber.symm.trans hnumber')
  exact heq.symm

/-- **Numbers follow the calendar**: the next number is that of the next day. -/
theorem ofDayNumber_succ (number : Int) :
    ofDayNumber (number + 1) = (ofDayNumber number).tomorrow := by
  obtain ⟨year, days, hdays, hnumber, heq⟩ := exists_ofDayNumber number
  rw [heq, tomorrow_sinceMarch year hdays]
  by_cases hlast : days + 1 < daysFromMarch year
  · rw [if_pos hlast]
    exact (sinceMarch_eq_ofDayNumber hlast (by push_cast; omega)).symm
  · have hge := daysFromMarch_ge (year + 1)
    rw [if_neg hlast]
    refine (sinceMarch_eq_ofDayNumber (by omega) ?_).symm
    rw [daysToYear_succ]
    push_cast
    omega

theorem ofDayNumber_add_natCast (number : Int) (days : Nat) :
    ofDayNumber (number + days) = tomorrow^[days] (ofDayNumber number) := by
  induction days with
  | zero => rw [Int.natCast_zero, Int.add_zero, Function.iterate_zero_apply]
  | succ days ih =>
    rw [Function.iterate_succ_apply', ← ih, ← ofDayNumber_succ, Int.natCast_succ, Int.add_assoc]

theorem ofDayNumber_natCast (days : Nat) : ofDayNumber days = tomorrow^[days] dayZero := by
  have h := ofDayNumber_add_natCast 0 days
  rw [Int.zero_add] at h
  exact h

/-- A day that there is lies in a month of a year from March to March. -/
theorem exists_eq_inMonth {date : Date} (hpos : 1 ≤ date.day)
    (hday : date.day ≤ daysInMonth date.year date.month) :
    ∃ year, ∃ passed < 12, ∃ days < monthLength year passed, date = inMonth year passed days := by
  obtain ⟨year, month, day⟩ := date
  obtain ⟨days, rfl⟩ : ∃ days, day = days + 1 := ⟨day - 1, by simp only at hpos; omega⟩
  have hmonth : 1 ≤ month ∧ month ≤ 12 := by
    unfold daysInMonth at hday
    split at hday <;> simp_all
  have heq : ∃ start, ∃ passed < 12,
      (⟨year, month, days + 1⟩ : Date) = inMonth start passed days := by
    by_cases hmarch : 3 ≤ month
    · refine ⟨year, month - 3, by omega, ?_⟩
      unfold inMonth
      rw [if_pos (by omega), if_pos (by omega), Nat.sub_add_cancel hmarch]
    · refine ⟨year - 1, month + 9, by omega, ?_⟩
      unfold inMonth
      rw [if_neg (by omega), if_neg (by omega), Int.sub_add_cancel, Nat.add_sub_cancel]
  obtain ⟨start, passed, hpassed, heq⟩ := heq
  refine ⟨start, passed, hpassed, days, ?_, heq⟩
  rw [heq, daysInMonth_inMonth start hpassed] at hday
  exact hday

/-- A day that there is has its number to itself. -/
theorem ofDayNumber_dayNumber {date : Date} (hpos : 1 ≤ date.day)
    (hday : date.day ≤ daysInMonth date.year date.month) : ofDayNumber date.dayNumber = date := by
  obtain ⟨year, passed, hpassed, days, hdays, rfl⟩ := exists_eq_inMonth hpos hday
  have hlt := daysToMonth_add_lt year hpassed hdays
  rw [← sinceMarch_daysToMonth_add year hdays, dayNumber_sinceMarch year hlt]
  exact (sinceMarch_eq_ofDayNumber hlt (Int.sub_add_cancel ..)).symm

theorem isReal_sinceMarch {year : Int} {days : Nat} (h : days < daysFromMarch year)
    (hfirst : firstYear ≤ year) (hlast : year < lastYear) : (sinceMarch year days).IsReal := by
  obtain ⟨passed, hpassed, rest, hrest, rfl⟩ := exists_daysToMonth_add year h
  rw [sinceMarch_daysToMonth_add year hrest]
  refine ⟨?_, Nat.succ_pos _, ?_⟩
  · unfold InRange inMonth
    simp only
    split <;> omega
  · rw [daysInMonth_inMonth year hpassed]
    exact hrest

end Date

end DvbReceiver
