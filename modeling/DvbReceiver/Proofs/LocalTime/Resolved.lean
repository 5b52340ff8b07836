import DvbReceiver.LocalTime.Resolved
import DvbReceiver.Proofs.Calendar.Later
import DvbReceiver.Proofs.LocalTime.Supported

/-!
# Counting on from a captured time

A local time that was captured tells the local time at every later instant: it is as much later in
the calendar as has passed on the clock (`ResolvedTime.countsOn`). It tells none when too much has
passed to be counted, or when that leads out of the supported years.
-/

namespace DvbReceiver

namespace DateTime

/-- There is such a day, with such a time of day. A second may be followed by a leap second. -/
structure IsReal (time : DateTime) : Prop where
  date : time.date.IsReal
  secondOfDay : time.secondOfDay < secondsPerDay
  nanosecond : time.nanosecond < 2 * nanosPerSecond

/-- The date-time without the part of a second. -/
def wholeSecond (time : DateTime) : DateTime := { time with nanosecond := 0 }

theorem not_inLeapSecond (date : Date) (secondOfDay : Nat) :
    ¬(⟨date, secondOfDay, 0⟩ : DateTime).InLeapSecond :=
  Nat.not_le.2 (show 0 < nanosPerSecond by decide)

theorem supported?_eq_some_iff {time moved : DateTime} :
    time.supported? = some moved ↔ time.date.InRange ∧ time = moved := by
  rw [supported?, Option.ite_none_right_eq_some, Option.some.injEq]

end DateTime

namespace ResolvedTime

variable {time : ResolvedTime} {start moved : DateTime}

/-- The fields form a date-time. -/
def IsReal (time : ResolvedTime) : Prop :=
  time.date.IsReal ∧ time.hours < 24 ∧ time.minutes < 60 ∧ time.seconds < 60

theorem local?_eq_none_iff : time.local? = none ↔ ¬time.IsReal := by
  unfold local? DateTime.ofFields? IsReal
  simp [nanosPerSecond]

theorem local?_ofLocal (h : start.IsReal) (capturedAt : Int) :
    (ofLocal start capturedAt).local? = some start.wholeSecond := by
  have hsecond := h.secondOfDay
  unfold secondsPerDay at hsecond
  have hhour : start.hour < 24 := by unfold DateTime.hour; omega
  have hminute : start.minute < 60 := Nat.mod_lt _ (by decide)
  have hlast : start.second < 60 := Nat.mod_lt _ (by decide)
  have hfields : 3600 * start.hour + 60 * start.minute + start.second = start.secondOfDay := by
    unfold DateTime.hour DateTime.minute DateTime.second
    omega
  unfold local? ofLocal DateTime.ofFields? DateTime.wholeSecond
  rw [if_pos ⟨h.date, hhour, hminute, hlast, by decide⟩, hfields]

/-- What has passed since the capture is counted on in the calendar. -/
theorem at?_add (h : time.local? = some start) (elapsed : Nat) :
    time.at? (time.capturedAt + elapsed) =
      if longestSpan < elapsed then none else (start.later elapsed).supported? := by
  obtain ⟨hdate, secondOfDay, -, rfl⟩ := DateTime.eq_of_ofFields? h
  have helapsed : max 0 (time.capturedAt + elapsed - time.capturedAt) = (elapsed : Int) := by omega
  unfold at?
  rw [helapsed, h]
  dsimp only
  rw [Option.bind_some, DateTime.add_natCast hdate (DateTime.not_inLeapSecond _ _)]

theorem at?_add_eq_some_iff (h : time.local? = some start) {elapsed : Nat} :
    time.at? (time.capturedAt + elapsed) = some moved ↔
      (elapsed : Int) ≤ longestSpan ∧ (start.later elapsed).date.InRange ∧
        start.later elapsed = moved := by
  rw [at?_add h, Option.ite_none_left_eq_some, Int.not_lt, DateTime.supported?_eq_some_iff]

theorem at?_add_eq_none_iff (h : time.local? = some start) {elapsed : Nat} :
    time.at? (time.capturedAt + elapsed) = none ↔
      longestSpan < elapsed ∨ ¬(start.later elapsed).date.InRange := by
  rw [at?_add h, DateTime.supported?]
  split_ifs <;> simp_all

/-- Up to the capture it is the time of the capture. -/
theorem at?_of_le (h : time.local? = some start) {instant : Int} (hle : instant ≤ time.capturedAt) :
    time.at? instant = some start := by
  obtain ⟨hdate, secondOfDay, hsecond, rfl⟩ := DateTime.eq_of_ofFields? h
  -- What is before the capture is clamped to it, and so nothing has passed.
  have helapsed : max 0 (instant - time.capturedAt) =
      max 0 (time.capturedAt + (0 : Nat) - time.capturedAt) := by omega
  have hat : time.at? instant = time.at? (time.capturedAt + (0 : Nat)) := by
    unfold at?
    rw [helapsed]
  rw [hat, at?_add_eq_some_iff h,
    DateTime.later_zero hsecond (DateTime.not_inLeapSecond _ _)]
  exact ⟨by decide, hdate.1, rfl⟩

theorem at?_of_not_isReal (h : ¬time.IsReal) (instant : Int) : time.at? instant = none := by
  unfold at?
  rw [local?_eq_none_iff.2 h]
  dsimp only
  split <;> rfl

/-- What a local time that was captured tells at any instant. -/
structure CountsOn (start : DateTime) (capturedAt : Int) : Prop where
  local_eq : (ofLocal start capturedAt).local? = some start.wholeSecond
  /-- What it tells is as much later in the calendar as has passed. -/
  eq_later : ∀ (elapsed : Nat) (moved : DateTime),
    (ofLocal start capturedAt).at? (capturedAt + elapsed) = some moved →
      moved = start.wholeSecond.later elapsed
  /-- It tells nothing if more has passed than 2⁶³ - 1 milliseconds, or the date leaves the
  supported years. -/
  eq_none_iff : ∀ elapsed : Nat,
    (ofLocal start capturedAt).at? (capturedAt + elapsed) = none ↔
      longestSpan < elapsed ∨ ¬(start.wholeSecond.later elapsed).date.InRange
  before : ∀ instant < capturedAt,
    (ofLocal start capturedAt).at? instant = (ofLocal start capturedAt).local?
  mono : ∀ (elapsed more : Nat) (first second : DateTime), elapsed ≤ more →
    (ofLocal start capturedAt).at? (capturedAt + elapsed) = some first →
    (ofLocal start capturedAt).at? (capturedAt + more) = some second →
      first ≤ second ∧ second.nanoseconds - first.nanoseconds = more - elapsed

/-- **Counting on is exact**: a local time that was captured, with any part of a second and in a
leap second too, tells the second of the capture and exactly what is later by the time that has
passed. Fields that form no date-time tell nothing. -/
theorem countsOn :
    (∀ (start : DateTime) (capturedAt : Int), start.IsReal → CountsOn start capturedAt) ∧
      ∀ time : ResolvedTime,
        ¬(time.date.IsReal ∧ time.hours < 24 ∧ time.minutes < 60 ∧ time.seconds < 60) →
          ∀ instant, time.at? instant = none := by
  refine ⟨fun start capturedAt hstart => ?_, fun time => at?_of_not_isReal⟩
  have hlocal := local?_ofLocal hstart capturedAt
  have hmoved : ∀ (elapsed : Nat) (moved : DateTime),
      (ofLocal start capturedAt).at? (capturedAt + elapsed) = some moved →
        moved = start.wholeSecond.later elapsed :=
    fun elapsed moved hat => ((at?_add_eq_some_iff hlocal).1 hat).2.2.symm
  refine ⟨hlocal, hmoved, fun elapsed => at?_add_eq_none_iff hlocal, fun instant hlt => ?_, ?_⟩
  · rw [hlocal]
    exact at?_of_le hlocal (Int.le_of_lt hlt)
  · intro elapsed more first second hle hfirst hsecond
    obtain rfl := hmoved elapsed first hfirst
    obtain rfl := hmoved more second hsecond
    have hdate : start.wholeSecond.date.IsReal := hstart.date
    refine ⟨DateTime.later_le_later _ hle, ?_⟩
    rw [DateTime.nanoseconds_later hdate, DateTime.nanoseconds_later hdate]
    omega

/-- A time in the leap second at the end of 2016, and a 29 February that there is not. -/
theorem countsOn_of_leapSecond :
    DateTime.IsReal ⟨⟨2016, 12, 31⟩, 86399, 1500000000⟩ ∧
      CountsOn ⟨⟨2016, 12, 31⟩, 86399, 1500000000⟩ 7 ∧
      ¬(Date.IsReal ⟨2009, 2, 29⟩ ∧ 12 < 24 ∧ 0 < 60 ∧ 0 < 60) ∧
      at? ⟨⟨2009, 2, 29⟩, 12, 0, 0, 7⟩ 8 = none := by
  have hstart : DateTime.IsReal ⟨⟨2016, 12, 31⟩, 86399, 1500000000⟩ :=
    ⟨by decide, by decide, by decide⟩
  exact ⟨hstart, countsOn.1 _ 7 hstart, by decide, countsOn.2 _ (by decide) 8⟩

/-- The part of a second is dropped, so the next second begins a second after the capture. -/
example : (ofLocal ⟨⟨2016, 12, 31⟩, 86399, 1500000000⟩ 7).at? (7 + 1000000000) =
    some ⟨⟨2017, 1, 1⟩, 0, 0⟩ := by
  decide

end ResolvedTime

end DvbReceiver
