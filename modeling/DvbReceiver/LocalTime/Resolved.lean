import DvbReceiver.Calendar.DateTime

/-!
# Resolved time

A receiver that has found out the local time can tell it at any later instant by counting on
from the instant of capture. Instants are nanoseconds of a clock that never goes back.
-/

namespace DvbReceiver

/-- The local time, to the second, at an instant of capture. -/
structure ResolvedTime where
  date : Date
  hours : Nat
  minutes : Nat
  seconds : Nat
  capturedAt : Int
  deriving DecidableEq, Repr

namespace ResolvedTime

/-- The longest time, in nanoseconds, that can be counted on: 2⁶³ - 1 milliseconds. -/
def longestSpan : Int := (Nat.pow 2 63 - 1) * 1000000

/-- The local time captured at an instant. Parts of a second are dropped. -/
def ofLocal (start : DateTime) (capturedAt : Int) : ResolvedTime where
  date := start.date
  hours := start.hour
  minutes := start.minute
  seconds := start.second
  capturedAt

/-- The local time at the instant of capture, if the fields form one. -/
def local? (time : ResolvedTime) : Option DateTime :=
  DateTime.ofFields? time.date time.hours time.minutes time.seconds

/-- The local time at an instant; one before the capture counts as the capture. -/
def at? (time : ResolvedTime) (instant : Int) : Option DateTime :=
  let elapsed := max 0 (instant - time.capturedAt)
  if longestSpan < elapsed then none
  else time.local?.bind fun start => (start.add elapsed).supported?

end ResolvedTime

end DvbReceiver
