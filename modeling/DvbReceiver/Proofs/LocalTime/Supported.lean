import DvbReceiver.Proofs.LocalTime

/-!
# Local times within the supported years

A Modified Julian Date of 16 bits lies in the years from 1858 to 2039, and an offset of a TOT moves
it by a week at most, whatever its digits are. So the local time of a receiver stays far within the
supported years (`LocalTime.isReal_resolve`), also on days for which the closed form is not exact.
-/

namespace DvbReceiver

namespace Date

theorem isReal_ofDayNumber {number : Int} (h : -1000000 ≤ number) (h' : number ≤ 1000000) :
    (ofDayNumber number).IsReal := by
  obtain ⟨year, days, hdays, hnumber, heq⟩ := exists_ofDayNumber number
  have hle := daysFromMarch_le year
  unfold epoch daysToYear at hnumber
  rw [heq]
  refine isReal_sinceMarch hdays ?_ ?_
  · unfold firstYear
    omega
  · unfold lastYear
    omega

theorem daysToMonth_monthsSinceMarch_le (month : Nat) :
    daysToMonth (monthsSinceMarch month) ≤ 337 := by
  unfold daysToMonth monthsSinceMarch
  omega

theorem daysInMonth_le (year : Int) (month : Nat) : daysInMonth year month ≤ 31 := by
  unfold daysInMonth
  split
  case h_12 => split <;> decide
  all_goals decide

theorem IsReal.dayNumber_mem {date : Date} (h : date.IsReal) (hfirst : 1800 ≤ date.year)
    (hlast : date.year ≤ 2100) : -100000 ≤ date.dayNumber ∧ date.dayNumber ≤ 100000 := by
  obtain ⟨-, hpos, hday⟩ := h
  have hmonth := daysToMonth_monthsSinceMarch_le date.month
  have hlength := daysInMonth_le date.year date.month
  unfold dayNumber epoch
  dsimp only
  split <;> omega

end Date

theorem ModifiedJulian.year_mem {day : Nat} (h : day < 65536) :
    1858 ≤ (date day).year ∧ (date day).year ≤ 2039 := by
  unfold date
  dsimp only
  split <;> omega

namespace DateTime

/-- What the fields of a time table make, if they make a date-time. -/
theorem eq_of_ofFields? {date : Date} {hour minute second : Nat} {time : DateTime}
    (h : ofFields? date hour minute second = some time) :
    date.IsReal ∧ ∃ secondOfDay < 86400, time = ⟨date, secondOfDay, 0⟩ := by
  unfold ofFields? at h
  split at h
  · next hfields =>
    cases h
    obtain ⟨hreal, hhour, hminute, hsecond, -⟩ := hfields
    exact ⟨hreal, _, by omega, rfl⟩
  · cases h

end DateTime

namespace LocalTime

/-- **The local time lies in the supported years**, for every time that a TDT can give and every
offset that a TOT can give for a country. -/
theorem isReal_resolve {tdtSection totSection : Bytes} {tdt : Tdt} {tot : Tot} {utc : DateTime}
    (htdt : Tdt.decode tdtSection = .ok tdt) (hutc : tdt.utc? = some utc)
    (htot : Tot.decode totSection = .ok tot) (country : Option String) :
    (resolve utc (some tot) country).date.IsReal := by
  obtain ⟨hreal, secondOfDay, hsecond, rfl⟩ := DateTime.eq_of_ofFields? hutc
  obtain ⟨hfirst, hlast⟩ := ModifiedJulian.year_mem (Tdt.mjd_lt_of_decode htdt)
  obtain ⟨hnumber, hnumber'⟩ := hreal.dayNumber_mem (by omega) (by omega)
  unfold resolve
  rw [Option.bind_some]
  rcases hfound : tot.offsetFor? country with _ | offset
  · exact hreal
  · obtain ⟨bytes, hdecode⟩ := Tot.decoded_of_offsetFor? htot hfound
    obtain ⟨hoffset, hoffset'⟩ := LocalTimeOffset.inSeconds_mem hdecode
    change (DateTime.addSeconds _ offset.inSeconds).date.IsReal
    rw [DateTime.addSeconds_eq, DateTime.ofNanoseconds_mul]
    unfold secondsPerDay
    refine Date.isReal_ofDayNumber ?_ ?_ <;> push_cast <;> omega

end LocalTime

end DvbReceiver
