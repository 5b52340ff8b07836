/-!
# Dates of the Gregorian calendar

The Gregorian calendar is carried back before its introduction, and years before year 1 are
counted 0, -1, -2, …. A date is what is written, real or not; `Date.IsReal` tells which dates
there are. Days are numbered from 17 November 1858, which is day 0 (`Date.dayNumber`, and back
with `Date.ofDayNumber`).

Both directions count years from March on, so that the leap day is the last day of a year. The
calendar repeats every 400 years of 146097 days.
-/

namespace DvbReceiver

/-- A date as written. -/
structure Date where
  year : Int
  month : Nat
  day : Nat
  deriving DecidableEq, Repr

namespace Date

/-- The year has a 29 February. -/
def IsLeap (year : Int) : Prop :=
  year % 4 = 0 ∧ (year % 100 ≠ 0 ∨ year % 400 = 0)

instance (year : Int) : Decidable (IsLeap year) :=
  inferInstanceAs (Decidable (_ ∧ _))

/-- The number of days of a month; none for a month that does not exist. -/
def daysInMonth (year : Int) : Nat → Nat
  | 1 | 3 | 5 | 7 | 8 | 10 | 12 => 31
  | 4 | 6 | 9 | 11 => 30
  | 2 => if IsLeap year then 29 else 28
  | _ => 0

/-- The first year in which dates are supported. -/
def firstYear : Int := -262143

/-- The last year in which dates are supported. -/
def lastYear : Int := 262142

/-- The date lies in a supported year. -/
def InRange (date : Date) : Prop :=
  firstYear ≤ date.year ∧ date.year ≤ lastYear

instance (date : Date) : Decidable date.InRange :=
  inferInstanceAs (Decidable (_ ∧ _))

/-- There is such a day, and it lies in a supported year. -/
def IsReal (date : Date) : Prop :=
  date.InRange ∧ 1 ≤ date.day ∧ date.day ≤ daysInMonth date.year date.month

instance (date : Date) : Decidable date.IsReal :=
  inferInstanceAs (Decidable (_ ∧ _))

/-- The days of 400 years. -/
def daysIn400Years : Nat := 146097

/-- The days of 100 years that do not end with a leap day. -/
def daysIn100Years : Nat := 36524

/-- The days of four years with a leap day at the end. -/
def daysIn4Years : Nat := 1461

/-- The days from 1 March of year 0 to 17 November 1858. -/
def epoch : Int := 678881

/-- The months passed since March. -/
def monthsSinceMarch (month : Nat) : Nat := (month + 9) % 12

/-- The days from 1 March to the first of a month, by the months passed. -/
def daysToMonth (passed : Nat) : Nat := (153 * passed + 2) / 5

/-- The number of the day, counted from 17 November 1858. -/
def dayNumber (date : Date) : Int :=
  let year := if date.month ≤ 2 then date.year - 1 else date.year
  365 * year + year / 4 - year / 100 + year / 400
    + daysToMonth (monthsSinceMarch date.month) + date.day - 1 - epoch

/-- The date with this number. The day is placed in its 400 years, then in the century, the four
years and the year in it; the last century and the last year are a day longer. -/
def ofDayNumber (number : Int) : Date :=
  let count := number + epoch
  let era := count / daysIn400Years
  let inEra := (count % daysIn400Years).toNat
  let century := min (inEra / daysIn100Years) 3
  let inCentury := inEra - daysIn100Years * century
  let leap := inCentury / daysIn4Years
  let inLeap := inCentury % daysIn4Years
  let year := min (inLeap / 365) 3
  let inYear := inLeap - 365 * year
  let passed := (5 * inYear + 2) / 153
  let month := if passed < 10 then passed + 3 else passed - 9
  { year := 400 * era + (100 * century + 4 * leap + year : Nat) + (if month ≤ 2 then 1 else 0)
    month
    day := inYear - daysToMonth passed + 1 }

end Date

end DvbReceiver
