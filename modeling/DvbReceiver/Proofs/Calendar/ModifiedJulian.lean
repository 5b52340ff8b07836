import DvbReceiver.Calendar.ModifiedJulian
import DvbReceiver.Proofs.Calendar.Gregorian

/-!
# The closed form for Modified Julian Dates

From 1 March 1900, which is day 15079, up to the last day that 16 bits can hold, the closed form
gives the calendar's date (`ModifiedJulian.date_eq_ofDayNumber`).

The days of 365.25 to a year give the number of the year from March 1900 and the days before it,
because every fourth year is a leap year until 2099. The days of 30.6001 to a month do the same for
the months within the year. They are counted from 4 for March, since the offset leaves room for four
months of 30.6001 days before it.
-/

namespace DvbReceiver.ModifiedJulian

/-- 30.6001 days to a month give the months since March within a year. -/
theorem month_eq {days : Nat} (h : days < 366) :
    (10000 * days + 1229000) / 306001 = (5 * days + 2) / 153 + 4 := by
  have hpassed : (5 * days + 2) / 153 < 12 := by omega
  generalize hp : (5 * days + 2) / 153 = passed at *
  interval_cases passed <;> omega

/-- 30.6001 days to a month give the days before a month. -/
theorem toMonth_eq {passed : Nat} (h : passed < 12) :
    (passed + 4) * 306001 / 10000 = Date.daysToMonth passed + 122 := by
  interval_cases passed <;> rfl

/-- The closed form counts years from 1 March 1900. -/
theorem date_eq_sinceMarch {day days : Nat} {year : Int} (h : days < 366)
    (hyear : year = (100 * (day : Int) - 1507820) / 36525)
    (hdays : (day : Int) = 15079 + year * 36525 / 100 + days) :
    date day = Date.sinceMarch (1900 + year) days := by
  have hpassed : (5 * days + 2) / 153 < 12 := by omega
  have hmonth : (10000 * ((day : Int) - year * 36525 / 100) - 149561000) / 306001 =
      ((5 * days + 2) / 153 + 4 : Nat) := by
    rw [← month_eq h]
    push_cast
    congr 1
    omega
  have htoMonth : (((5 * days + 2) / 153 + 4 : Nat) : Int) * 306001 / 10000 =
      (Date.daysToMonth ((5 * days + 2) / 153) + 122 : Nat) := by
    rw [← toMonth_eq hpassed]
    push_cast
    rfl
  have hle : Date.daysToMonth ((5 * days + 2) / 153) ≤ days := by
    unfold Date.daysToMonth
    omega
  simp only [date, ← hyear, hmonth, htoMonth, Date.sinceMarch, Date.inMonth]
  generalize (5 * days + 2) / 153 = passed at *
  generalize Date.daysToMonth passed = before at *
  by_cases hlt : passed < 10
  · rw [if_neg (by omega), if_pos hlt, if_pos hlt]
    congr 1
    · omega
    · omega
    · omega
  · rw [if_pos (by omega), if_neg hlt, if_neg hlt]
    congr 1
    · omega
    · omega

/-- Every fourth year is a leap year from 1901 to 2099. -/
theorem daysFromMarch_eq {year : Int} (h : 0 ≤ year) (h' : year < 199) :
    (Date.daysFromMarch (1900 + year) : Int) = 365 + ((year + 1) / 4 - year / 4) := by
  by_cases hleap : Date.IsLeap (1900 + year + 1)
  · rw [Date.daysFromMarch, if_pos hleap]
    unfold Date.IsLeap at hleap
    omega
  · rw [Date.daysFromMarch, if_neg hleap]
    unfold Date.IsLeap at hleap
    omega

theorem daysToYear_eq {year : Int} (h : 0 ≤ year) (h' : year < 199) :
    Date.daysToYear (1900 + year) = Date.daysToYear 1900 + 365 * year + year / 4 := by
  unfold Date.daysToYear
  by_cases hcentury : year < 100 <;> omega

/-- The date lies in a year from March 1900 on. -/
theorem exists_sinceMarch {day : Nat} (h : 15079 ≤ day) (h' : day < 65536) :
    ∃ year days, 0 ≤ year ∧ year < 199 ∧ days < Date.daysFromMarch (1900 + year) ∧
      day + Date.epoch = Date.daysToYear (1900 + year) + days ∧
      date day = Date.sinceMarch (1900 + year) days := by
  obtain ⟨year, hyear⟩ : ∃ year : Int, year = (100 * (day : Int) - 1507820) / 36525 := ⟨_, rfl⟩
  have hfirst : 0 ≤ year := by omega
  have hlast : year < 199 := by omega
  have htoYear : year * 36525 / 100 = 365 * year + year / 4 := by omega
  obtain ⟨days, hdays⟩ : ∃ days : Nat, (day : Int) = 15079 + year * 36525 / 100 + days :=
    ⟨(day - 15079 - year * 36525 / 100).toNat, by omega⟩
  have hlt : days < Date.daysFromMarch (1900 + year) := by
    have hlength := daysFromMarch_eq hfirst hlast
    omega
  have hle := Date.daysFromMarch_le (1900 + year)
  refine ⟨year, days, hfirst, hlast, hlt, ?_, date_eq_sinceMarch (by omega) hyear hdays⟩
  rw [daysToYear_eq hfirst hlast, show Date.daysToYear 1900 = 15079 + Date.epoch by rfl]
  omega

/-- **The closed form gives the calendar's date.** -/
theorem date_eq_ofDayNumber {day : Nat} (h : 15079 ≤ day) (h' : day < 65536) :
    date day = Date.ofDayNumber day := by
  obtain ⟨year, days, -, -, hdays, hnumber, heq⟩ := exists_sinceMarch h h'
  rw [heq, Date.sinceMarch_eq_ofDayNumber hdays hnumber]

theorem isReal_date {day : Nat} (h : 15079 ≤ day) (h' : day < 65536) : (date day).IsReal := by
  obtain ⟨year, days, hfirst, hlast, hdays, -, heq⟩ := exists_sinceMarch h h'
  rw [heq]
  refine Date.isReal_sinceMarch hdays ?_ ?_
  · unfold Date.firstYear
    omega
  · unfold Date.lastYear
    omega

/-- A time of day on a day from 1 March 1900 on makes a date-time. -/
theorem dateTime?_eq_some {day hours minutes seconds : Nat} (h : 15079 ≤ day) (h' : day < 65536)
    (hhours : hours < 24) (hminutes : minutes < 60) (hseconds : seconds < 60) :
    dateTime? day hours minutes seconds =
      some ⟨.ofDayNumber day, 3600 * hours + 60 * minutes + seconds, 0⟩ := by
  have hreal := isReal_date h h'
  rw [dateTime?, DateTime.ofFields?, if_pos ⟨hreal, hhours, hminutes, hseconds, by decide⟩,
    date_eq_ofDayNumber h h']

end DvbReceiver.ModifiedJulian
