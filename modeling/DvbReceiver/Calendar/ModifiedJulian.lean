import DvbReceiver.Calendar.DateTime

/-!
# Modified Julian Dates

Time tables give the date as a Modified Julian Date: the number of days since
17 November 1858. `ModifiedJulian.date` is the closed form that receivers use for it. It counts
every fourth year as a leap year, and thus gives the calendar's date from 1 March 1900
(day 15079) to 28 February 2100.

The constants are 365.25 days in a year and 30.6001 days in a month, with the offsets 15078.2
and 14956.1. Here they are scaled to whole numbers, so that every quotient is rounded down
exactly.
-/

namespace DvbReceiver.ModifiedJulian

/-- The date of a Modified Julian Date. -/
def date (day : Nat) : Date :=
  let year : Int := (100 * day - 1507820) / 36525
  let toYear := year * 36525 / 100
  let month : Int := (10000 * (day - toYear) - 149561000) / 306001
  let toMonth := month * 306001 / 10000
  -- January and February are counted as the last months of the year before
  let carry : Int := if month = 14 ∨ month = 15 then 1 else 0
  { year := 1900 + year + carry
    month := (month - 1 - 12 * carry).toNat
    day := (day - 14956 - toYear - toMonth).toNat }

/-- The date-time of a Modified Julian Date with a time of day, if both exist. -/
def dateTime? (day hours minutes seconds : Nat) : Option DateTime :=
  DateTime.ofFields? (date day) hours minutes seconds

end DvbReceiver.ModifiedJulian
