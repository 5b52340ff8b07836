import DvbReceiver.Calendar.DateTime
import DvbReceiver.Proofs.Calendar.Gregorian

/-!
# Later date-times

Dates and date-times are ordered from the year down to the nanosecond. `DateTime.later` counts on
from a date-time: full days are gone through in the calendar one by one, and the rest of the time is
the time of day. This is what a move in the numbering of days comes to (`DateTime.add_natCast`), and
it is as much later as is counted (`DateTime.later_le_later`, `DateTime.nanoseconds_later`).
-/

namespace DvbReceiver

namespace Date

instance : LT Date where
  lt date other := date.year < other.year ∨
    date.year = other.year ∧ (date.month < other.month ∨
      date.month = other.month ∧ date.day < other.day)

theorem lt_iff {date other : Date} :
    date < other ↔ date.year < other.year ∨
      date.year = other.year ∧ (date.month < other.month ∨
        date.month = other.month ∧ date.day < other.day) := Iff.rfl

theorem lt_trans {date₁ date₂ date₃ : Date} (h₁ : date₁ < date₂) (h₂ : date₂ < date₃) :
    date₁ < date₃ := by
  rw [lt_iff] at *
  omega

theorem lt_tomorrow (date : Date) : date < date.tomorrow := by
  rw [lt_iff]
  unfold tomorrow
  split
  · simp
  · split <;> simp

theorem lt_iterate_tomorrow (date : Date) {days : Nat} (h : 0 < days) :
    date < tomorrow^[days] date := by
  induction days, h using Nat.le_induction with
  | base => exact lt_tomorrow date
  | succ days _ ih =>
    rw [Function.iterate_succ_apply']
    exact lt_trans ih (lt_tomorrow _)

end Date

namespace DateTime

instance : LE DateTime where
  le time other := time.date < other.date ∨
    time.date = other.date ∧ (time.secondOfDay < other.secondOfDay ∨
      time.secondOfDay = other.secondOfDay ∧ time.nanosecond ≤ other.nanosecond)

theorem le_iff {time other : DateTime} :
    time ≤ other ↔ time.date < other.date ∨
      time.date = other.date ∧ (time.secondOfDay < other.secondOfDay ∨
        time.secondOfDay = other.secondOfDay ∧ time.nanosecond ≤ other.nanosecond) := Iff.rfl

/-- The time of day in nanoseconds. -/
def nanoOfDay (time : DateTime) : Nat := nanosPerSecond * time.secondOfDay + time.nanosecond

/-- The date-time so many nanoseconds after the start of a day. -/
def sinceMidnight (date : Date) (nanos : Nat) : DateTime where
  date := Date.tomorrow^[nanos / nanosPerSecond / secondsPerDay] date
  secondOfDay := nanos / nanosPerSecond % secondsPerDay
  nanosecond := nanos % nanosPerSecond

/-- The date-time so many nanoseconds later. -/
def later (time : DateTime) (nanos : Nat) : DateTime :=
  sinceMidnight time.date (time.nanoOfDay + nanos)

theorem sinceMidnight_le_sinceMidnight (date : Date) {nanos more : Nat} (h : nanos ≤ more) :
    sinceMidnight date nanos ≤ sinceMidnight date more := by
  have hseconds : nanos / nanosPerSecond ≤ more / nanosPerSecond := Nat.div_le_div_right h
  have hdays := Nat.div_le_div_right (c := secondsPerDay) hseconds
  rw [le_iff]
  unfold sinceMidnight
  dsimp only
  -- Either a day begins in between, or both are times of one day.
  rcases Nat.lt_or_eq_of_le hdays with hlt | heq
  · left
    obtain ⟨between, hbetween⟩ := Nat.exists_eq_add_of_lt hlt
    rw [hbetween, Nat.add_assoc, Nat.add_comm, Function.iterate_add_apply]
    exact Date.lt_iterate_tomorrow _ (Nat.succ_pos _)
  · right
    unfold nanosPerSecond secondsPerDay at *
    exact ⟨congrArg (Date.tomorrow^[·] date) heq, by omega⟩

theorem later_le_later (time : DateTime) {nanos more : Nat} (h : nanos ≤ more) :
    time.later nanos ≤ time.later more :=
  sinceMidnight_le_sinceMidnight time.date (Nat.add_le_add_left h _)

/-! ## In the numbering of days -/

theorem nanoseconds_eq (time : DateTime) :
    time.nanoseconds =
      nanosPerSecond * (secondsPerDay * time.date.dayNumber) + time.nanoOfDay := by
  unfold nanoseconds seconds nanoOfDay
  push_cast
  rw [Int.mul_add, Int.add_assoc]

theorem nanoseconds_ofNanoseconds (count : Int) : (ofNanoseconds count).nanoseconds = count := by
  unfold ofNanoseconds nanoseconds seconds
  simp only [Date.dayNumber_ofDayNumber]
  unfold nanosPerSecond secondsPerDay
  omega

/-- Nanoseconds that are counted from a day that there is go on from it in the calendar. -/
theorem ofNanoseconds_eq_sinceMidnight {date : Date} (hdate : date.IsReal) (nanos : Nat) :
    ofNanoseconds (nanosPerSecond * (secondsPerDay * date.dayNumber) + nanos) =
      sinceMidnight date nanos := by
  obtain ⟨-, hpos, hday⟩ := hdate
  have hnumber : (nanosPerSecond * (secondsPerDay * date.dayNumber) + nanos) / nanosPerSecond /
      secondsPerDay = date.dayNumber + (nanos / nanosPerSecond / secondsPerDay : Nat) := by
    unfold nanosPerSecond secondsPerDay
    omega
  unfold ofNanoseconds sinceMidnight
  simp only [hnumber, Date.ofDayNumber_add_natCast, Date.ofDayNumber_dayNumber hpos hday]
  unfold nanosPerSecond secondsPerDay
  congr 1 <;> omega

theorem ofNanoseconds_eq_later {time : DateTime} (hdate : time.date.IsReal) (nanos : Nat) :
    ofNanoseconds (time.nanoseconds + nanos) = time.later nanos := by
  rw [nanoseconds_eq, Int.add_assoc, ← Int.natCast_add, ofNanoseconds_eq_sinceMidnight hdate]
  rfl

/-- **A move is exact** from a date-time that there is and that lies in no leap second. -/
theorem add_natCast {time : DateTime} (hdate : time.date.IsReal) (hleap : ¬time.InLeapSecond)
    (nanos : Nat) : time.add nanos = time.later nanos := by
  rw [← ofNanoseconds_eq_later hdate]
  exact if_neg fun h => hleap h.1

theorem nanoseconds_later {time : DateTime} (hdate : time.date.IsReal) (nanos : Nat) :
    (time.later nanos).nanoseconds = time.nanoseconds + nanos := by
  rw [← ofNanoseconds_eq_later hdate, nanoseconds_ofNanoseconds]

theorem later_zero {time : DateTime} (hsecond : time.secondOfDay < secondsPerDay)
    (hleap : ¬time.InLeapSecond) : time.later 0 = time := by
  obtain ⟨date, secondOfDay, nanosecond⟩ := time
  have hnano : nanosecond < nanosPerSecond := Nat.not_le.1 hleap
  have hdiv : (nanosPerSecond * secondOfDay + nanosecond) / nanosPerSecond = secondOfDay := by
    rw [Nat.mul_add_div (by decide), Nat.div_eq_of_lt hnano, Nat.add_zero]
  have hmod : (nanosPerSecond * secondOfDay + nanosecond) % nanosPerSecond = nanosecond := by
    rw [Nat.mul_add_mod, Nat.mod_eq_of_lt hnano]
  simp only [later, sinceMidnight, nanoOfDay, Nat.add_zero, hdiv, hmod,
    Nat.div_eq_of_lt hsecond, Nat.mod_eq_of_lt hsecond, Function.iterate_zero_apply]

end DateTime

end DvbReceiver
