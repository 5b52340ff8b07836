import DvbReceiver.LocalTime
import DvbReceiver.Proofs.Calendar.ModifiedJulian
import DvbReceiver.Proofs.Table.Decoding

/-!
# Local time to the second

Local time is UTC moved by the offset of the country, exactly: seconds are counted from the start of
17 November 1858 and taken back to a date and a time of day by the calendar alone
(`LocalTime.resolve_of_decode`).

`DateTime.sinceDayZero` is that date and time of day, and `Tot.Selects` says which offset of a TOT
is the country's.
-/

namespace DvbReceiver

open Date

namespace DateTime

/-- The date-time so many seconds after the start of 17 November 1858. -/
def sinceDayZero (seconds : Nat) : DateTime where
  date := tomorrow^[seconds / secondsPerDay] dayZero
  secondOfDay := seconds % secondsPerDay
  nanosecond := 0

/-- Whole seconds leave no part of a second. -/
theorem ofNanoseconds_mul (seconds : Int) :
    ofNanoseconds (nanosPerSecond * seconds) =
      ⟨.ofDayNumber (seconds / secondsPerDay), (seconds % secondsPerDay).toNat, 0⟩ := by
  have hdiv : (nanosPerSecond * seconds : Int) / nanosPerSecond = seconds :=
    Int.mul_ediv_cancel_left _ (by decide)
  have hmod : (nanosPerSecond * seconds : Int) % nanosPerSecond = 0 := Int.mul_emod_right _ _
  rw [ofNanoseconds, hdiv, hmod]
  rfl

theorem ofNanoseconds_seconds (seconds : Nat) :
    ofNanoseconds (nanosPerSecond * seconds) = sinceDayZero seconds := by
  rw [ofNanoseconds_mul, sinceDayZero, ← Date.ofDayNumber_natCast]
  rfl

/-- A whole second of a day is the second that its day and time of day count. -/
theorem eq_sinceDayZero (day : Nat) {secondOfDay : Nat} (h : secondOfDay < secondsPerDay) :
    (⟨.ofDayNumber day, secondOfDay, 0⟩ : DateTime) =
      sinceDayZero (secondsPerDay * day + secondOfDay) := by
  have hpos : 0 < secondsPerDay := by decide
  have hdiv : (secondsPerDay * day + secondOfDay) / secondsPerDay = day := by
    rw [Nat.mul_add_div hpos, Nat.div_eq_of_lt h, Nat.add_zero]
  have hmod : (secondsPerDay * day + secondOfDay) % secondsPerDay = secondOfDay := by
    rw [Nat.mul_add_mod, Nat.mod_eq_of_lt h]
  rw [sinceDayZero, hdiv, hmod, Date.ofDayNumber_natCast]

/-- A move by seconds counts on from the second of the start. -/
theorem addSeconds_eq (date : Date) (secondOfDay : Nat) (seconds : Int) :
    (⟨date, secondOfDay, 0⟩ : DateTime).addSeconds seconds = ofNanoseconds
      (nanosPerSecond * (secondsPerDay * date.dayNumber + secondOfDay + seconds)) := by
  have hnanoseconds : (⟨date, secondOfDay, 0⟩ : DateTime).nanoseconds + nanosPerSecond * seconds =
      nanosPerSecond * (secondsPerDay * date.dayNumber + secondOfDay + seconds) := by
    rw [nanoseconds, DateTime.seconds, Int.natCast_zero, Int.add_zero, ← Int.mul_add]
  rw [addSeconds, add, if_neg (by simp [InLeapSecond, nanosPerSecond]), hnanoseconds]

theorem addSeconds_ofDayNumber (day : Nat) (secondOfDay : Nat) {seconds : Int} {moved : Nat}
    (hmoved : (moved : Int) = secondsPerDay * day + secondOfDay + seconds) :
    (⟨.ofDayNumber day, secondOfDay, 0⟩ : DateTime).addSeconds seconds = sinceDayZero moved := by
  rw [addSeconds_eq, Date.dayNumber_ofDayNumber, ← hmoved, ofNanoseconds_seconds]

end DateTime

/-! ## The offset of a country -/

/-- Ahead of UTC an offset counts forwards. -/
def Polarity.sign : Polarity → Int
  | ahead => 1
  | behind => -1

theorem LocalTimeOffset.inSeconds_eq (offset : LocalTimeOffset) :
    offset.inSeconds = offset.polarity.sign * (3600 * offset.hours + 60 * offset.minutes) := by
  unfold inSeconds
  cases offset.polarity <;> simp [Polarity.sign]

/-- An offset that is broadcast moves the time by at most 165 hours and 165 minutes. -/
theorem LocalTimeOffset.inSeconds_mem {buffer : Bytes} {offset : LocalTimeOffset}
    (h : decode buffer = .ok offset) :
    -603900 ≤ offset.inSeconds ∧ offset.inSeconds ≤ 603900 := by
  obtain ⟨hhours, hminutes⟩ := fields_le_of_decode h
  unfold inSeconds
  dsimp only
  split <;> omega

namespace Tot

/-- The offset that a TOT has for a country: the first one in broadcast order with the country's
code, else the first of all, if there is any. -/
inductive Selects (tot : Tot) (country : Option String) : Option LocalTimeOffset → Prop
  | own (name : String) (before : List LocalTimeOffset) (offset : LocalTimeOffset)
    (after : List LocalTimeOffset) (hcountry : country = some name)
    (hoffsets : tot.offsets = before ++ offset :: after)
    (hown : Bytes.SameLetters offset.countryCode (Bytes.ofString name))
    (hbefore : ∀ earlier ∈ before,
      ¬Bytes.SameLetters earlier.countryCode (Bytes.ofString name)) :
    Selects tot country (some offset)
  | first (offset : LocalTimeOffset) (after : List LocalTimeOffset)
    (hother : ∀ name, country = some name → ∀ offset ∈ tot.offsets,
      ¬Bytes.SameLetters offset.countryCode (Bytes.ofString name))
    (hoffsets : tot.offsets = offset :: after) : Selects tot country (some offset)
  | none (hoffsets : tot.offsets = []) : Selects tot country none

theorem Selects.mem_offsets {tot : Tot} {country : Option String} {offset : LocalTimeOffset}
    (h : tot.Selects country (some offset)) : offset ∈ tot.offsets := by
  cases h with
  | own name before offset after _ hoffsets => simp [hoffsets]
  | first offset after _ hoffsets => simp [hoffsets]

theorem selects_offsetFor? (tot : Tot) (country : Option String) :
    tot.Selects country (tot.offsetFor? country) := by
  rcases hown : country.bind fun name =>
      tot.offsets.find? fun offset =>
        Bytes.SameLetters offset.countryCode (Bytes.ofString name) with _ | offset
  · have heq : tot.offsetFor? country = tot.offsets.head? := by
      rw [offsetFor?, hown, Option.none_or]
    rw [heq]
    rcases hoffsets : tot.offsets with _ | ⟨offset, after⟩
    · exact .none hoffsets
    · refine .first offset after (fun name hcountry => ?_) hoffsets
      subst hcountry
      simpa using hown
  · have heq : tot.offsetFor? country = some offset := by rw [offsetFor?, hown, Option.some_or]
    obtain ⟨name, hcountry, hfind⟩ := Option.bind_eq_some_iff.1 hown
    obtain ⟨hsame, before, after, hoffsets, hbefore⟩ := List.find?_eq_some_iff_append.1 hfind
    rw [heq]
    exact .own name before offset after hcountry hoffsets (by simpa using hsame)
      (by simpa using hbefore)

/-- No other offset is selected than the one that is looked up. -/
theorem Selects.eq_offsetFor? {tot : Tot} {country : Option String}
    {selected : Option LocalTimeOffset} (h : tot.Selects country selected) :
    selected = tot.offsetFor? country := by
  rw [offsetFor?]
  cases h with
  | own name before offset after hcountry hoffsets hown hbefore =>
    have hfind : tot.offsets.find? (fun offset =>
        Bytes.SameLetters offset.countryCode (Bytes.ofString name)) = some offset :=
      List.find?_eq_some_iff_append.2
        ⟨by simpa using hown, before, after, hoffsets, by simpa using hbefore⟩
    rw [hcountry, Option.bind_some, hfind, Option.some_or]
  | first offset after hother hoffsets =>
    have hnone : (country.bind fun name => tot.offsets.find? fun offset =>
        Bytes.SameLetters offset.countryCode (Bytes.ofString name)) = .none := by
      rcases country with _ | name
      · rfl
      · simpa using hother name rfl
    rw [hnone, Option.none_or, hoffsets, List.head?_cons]
  | none hoffsets =>
    rw [hoffsets]
    cases country <;> rfl

/-- The offset for a country was decoded from an entry. -/
theorem decoded_of_offsetFor? {buffer : Bytes} {tot : Tot} (h : decode buffer = .ok tot)
    {country : Option String} {offset : LocalTimeOffset}
    (hoffset : tot.offsetFor? country = some offset) :
    ∃ bytes, LocalTimeOffset.decode bytes = .ok offset :=
  decoded_of_mem_offsets h (Selects.mem_offsets (hoffset ▸ selects_offsetFor? tot country))

end Tot

namespace LocalTime

/-- The seconds of the selected offset. -/
def shift : Option LocalTimeOffset → Int
  | some offset => offset.polarity.sign * (3600 * offset.hours + 60 * offset.minutes)
  | none => 0

/-- An offset that an accepted TOT has takes back at most 165 hours and 165 minutes. -/
theorem neg_le_shift {buffer : Bytes} {tot : Tot} (h : Tot.decode buffer = .ok tot)
    {country : Option String} {selected : Option LocalTimeOffset}
    (hselects : tot.Selects country selected) : -603900 ≤ shift selected := by
  cases selected with
  | none => simp [shift]
  | some offset =>
    obtain ⟨bytes, hdecode⟩ := Tot.decoded_of_mem_offsets h hselects.mem_offsets
    rw [shift, ← LocalTimeOffset.inSeconds_eq]
    exact (LocalTimeOffset.inSeconds_mem hdecode).1

/-- **Local time is exact**: a TDT and a TOT give the date-time that lies as many seconds after the
start of 17 November 1858 as the day, the time of day and the offset of the country make. -/
theorem resolve_of_decode {tdtSection totSection : Bytes} {tdt : Tdt} {tot : Tot}
    (htdt : Tdt.decode tdtSection = .ok tdt) (htot : Tot.decode totSection = .ok tot)
    (hmjd : 15079 ≤ tdt.mjd) (hhours : tdt.hours < 24) (hminutes : tdt.minutes < 60)
    (hseconds : tdt.seconds < 60) (country : Option String) :
    ∃ (utc : DateTime) (selected : Option LocalTimeOffset) (seconds : Nat),
      tdt.utc? = some utc ∧ tot.Selects country selected ∧
      (seconds : Int) = 86400 * tdt.mjd + 3600 * tdt.hours + 60 * tdt.minutes + tdt.seconds +
        shift selected ∧
      resolve utc (some tot) country = .sinceDayZero seconds := by
  have hutc := ModifiedJulian.dateTime?_eq_some hmjd (Tdt.mjd_lt_of_decode htdt) hhours hminutes
    hseconds
  have hselects := Tot.selects_offsetFor? tot country
  have hshift := neg_le_shift htot hselects
  -- The first day with a closed form lies far enough from day zero for any offset.
  obtain ⟨seconds, hsum⟩ : ∃ seconds : Nat, (seconds : Int) = 86400 * tdt.mjd + 3600 * tdt.hours +
      60 * tdt.minutes + tdt.seconds + shift (tot.offsetFor? country) :=
    ⟨_, Int.toNat_of_nonneg (by omega)⟩
  refine ⟨_, _, seconds, hutc, hselects, hsum, ?_⟩
  unfold resolve
  rw [Option.bind_some]
  rcases hfound : tot.offsetFor? country with _ | offset
  · have hsecond : 3600 * tdt.hours + 60 * tdt.minutes + tdt.seconds < secondsPerDay := by
      unfold secondsPerDay
      omega
    rw [hfound, shift] at hsum
    have hcount : seconds =
        secondsPerDay * tdt.mjd + (3600 * tdt.hours + 60 * tdt.minutes + tdt.seconds) := by
      unfold secondsPerDay
      omega
    rw [hcount]
    exact DateTime.eq_sinceDayZero tdt.mjd hsecond
  · rw [hfound, shift, ← LocalTimeOffset.inSeconds_eq] at hsum
    refine DateTime.addSeconds_ofDayNumber _ _ ?_
    rw [hsum]
    unfold secondsPerDay
    push_cast
    omega

/-! ## A sample -/

namespace Sample

/-- A TDT section with the time 23:50:00 of 23 September 2009. -/
def tdtSection : Bytes := [0x70, 0x70, 0x05, 0xd7, 0x39, 0x23, 0x50, 0x00]

/-- What `tdtSection` decodes to. -/
def tdt : Tdt where
  header := { tableId := 0x70, sectionSyntaxIndicator := false, sectionLength := 5 }
  mjd := 55097
  hours := 23
  minutes := 50
  seconds := 0

/-- A TOT section: an hour behind UTC for `GBR`, an hour and a half ahead for `SRB`. -/
def totSection : Bytes :=
  [0x73, 0x70, 0x27, 0xd7, 0x39, 0x23, 0x50, 0x00, 0xf0, 0x1c, 0x58, 0x1a,
    0x47, 0x42, 0x52, 0x03, 0x01, 0x00, 0xd7, 0x60, 0x01, 0x00, 0x00, 0x00, 0x00,
    0x53, 0x52, 0x42, 0x02, 0x01, 0x30, 0xd7, 0x60, 0x01, 0x00, 0x00, 0x00, 0x00,
    0x00, 0x00, 0x00, 0x00]

/-- An hour behind UTC. -/
def britain : LocalTimeOffset where
  countryCode := [0x47, 0x42, 0x52]
  region := 0
  polarity := .behind
  hours := 1
  minutes := 0
  changeMjd := 0xd760
  changeTime := 0x010000
  nextHours := 0
  nextMinutes := 0

/-- An hour and a half ahead of UTC. -/
def serbia : LocalTimeOffset where
  countryCode := [0x53, 0x52, 0x42]
  region := 0
  polarity := .ahead
  hours := 1
  minutes := 30
  changeMjd := 0xd760
  changeTime := 0x010000
  nextHours := 0
  nextMinutes := 0

/-- What `totSection` decodes to. -/
def tot : Tot where
  header := { tableId := 0x73, sectionSyntaxIndicator := false, sectionLength := 39 }
  mjd := 55097
  hours := 0x23
  minutes := 0x50
  seconds := 0x00
  loopLength := 28
  descriptors :=
    ⟨[{ tag := 0x58, length := 26, entries := ⟨[britain, serbia], by decide⟩ }], by decide⟩

end Sample

open Sample in
/-- In Serbia it is 01:20 of the next day by then. -/
theorem resolve_of_lateTdt :
    Tdt.decode tdtSection = .ok tdt ∧ Tot.decode totSection = .ok tot ∧ 15079 ≤ tdt.mjd ∧
      tdt.hours < 24 ∧ tdt.minutes < 60 ∧ tdt.seconds < 60 ∧
      tdt.utc? = some ⟨⟨2009, 9, 23⟩, 3600 * 23 + 60 * 50, 0⟩ ∧
      tot.Selects (some "srb") (some serbia) ∧ shift (some serbia) = 5400 ∧
      resolve ⟨⟨2009, 9, 23⟩, 3600 * 23 + 60 * 50, 0⟩ (some tot) (some "srb") =
        .sinceDayZero (86400 * 55097 + 3600 * 23 + 60 * 50 + 5400) ∧
      DateTime.sinceDayZero (86400 * 55097 + 3600 * 23 + 60 * 50 + 5400) =
        ⟨⟨2009, 9, 24⟩, 3600 + 60 * 20, 0⟩ := by
  have htdt : Tdt.decode tdtSection = .ok tdt := by decide +kernel
  have htot : Tot.decode totSection = .ok tot := by decide +kernel
  have hutc : tdt.utc? = some ⟨⟨2009, 9, 23⟩, 3600 * 23 + 60 * 50, 0⟩ := by decide +kernel
  have hserbia : tot.offsetFor? (some "srb") = some serbia := by decide +kernel
  have hclock : resolve ⟨⟨2009, 9, 23⟩, 3600 * 23 + 60 * 50, 0⟩ (some tot) (some "srb") =
      ⟨⟨2009, 9, 24⟩, 3600 + 60 * 20, 0⟩ := by decide +kernel
  obtain ⟨utc, selected, seconds, hutc', hselects, hseconds, hresolve⟩ :=
    resolve_of_decode htdt htot (by decide) (by decide) (by decide) (by decide) (some "srb")
  cases hutc.symm.trans hutc'
  obtain rfl : selected = some serbia := hselects.eq_offsetFor?.trans hserbia
  have hshift : shift (some serbia) = 5400 := by decide
  obtain rfl : seconds = 86400 * 55097 + 3600 * 23 + 60 * 50 + 5400 := by
    rw [hshift] at hseconds
    exact Int.ofNat_inj.1 hseconds
  exact ⟨htdt, htot, by decide, by decide, by decide, by decide, hutc, hselects, hshift, hresolve,
    hresolve.symm.trans hclock⟩

end LocalTime

end DvbReceiver
