import DvbReceiver.Calendar.Date

/-!
# Date-times

A date-time is a date with a time of day, to the nanosecond. A nanosecond count of 10⁹ or more
denotes a leap second: the second that is inserted after the one written.

`DateTime.add` moves a date-time by a number of nanoseconds, exactly, in the calendar without
leap seconds. Only a date-time that itself lies in a leap second counts that second as one to
be passed through.
-/

namespace DvbReceiver

/-- The nanoseconds of a second. -/
def nanosPerSecond : Nat := 1000000000

/-- The seconds of a day. -/
def secondsPerDay : Nat := 86400

/-- A date and a time of day. -/
structure DateTime where
  date : Date
  /-- Whole seconds since midnight. -/
  secondOfDay : Nat
  nanosecond : Nat
  deriving DecidableEq, Repr

namespace DateTime

/-- The date at the given time of day, if there is such a day and such a time. A second may be
followed by a leap second. -/
def ofFields? (date : Date) (hour minute second : Nat) (nanosecond : Nat := 0) :
    Option DateTime :=
  if date.IsReal ∧ hour < 24 ∧ minute < 60 ∧ second < 60 ∧ nanosecond < 2 * nanosPerSecond then
    some { date, secondOfDay := 3600 * hour + 60 * minute + second, nanosecond }
  else none

def hour (time : DateTime) : Nat := time.secondOfDay / 3600

def minute (time : DateTime) : Nat := time.secondOfDay / 60 % 60

def second (time : DateTime) : Nat := time.secondOfDay % 60

/-- The whole seconds since the start of 17 November 1858. -/
def seconds (time : DateTime) : Int :=
  secondsPerDay * time.date.dayNumber + time.secondOfDay

/-- The nanoseconds since the start of 17 November 1858. -/
def nanoseconds (time : DateTime) : Int :=
  nanosPerSecond * time.seconds + time.nanosecond

/-- The date-time so many nanoseconds after the start of 17 November 1858. -/
def ofNanoseconds (count : Int) : DateTime :=
  let seconds := count / nanosPerSecond
  { date := .ofDayNumber (seconds / secondsPerDay)
    secondOfDay := (seconds % secondsPerDay).toNat
    nanosecond := (count % nanosPerSecond).toNat }

/-- The date-time lies in a leap second. -/
def InLeapSecond (time : DateTime) : Prop := nanosPerSecond ≤ time.nanosecond

instance (time : DateTime) : Decidable time.InLeapSecond :=
  inferInstanceAs (Decidable (_ ≤ _))

/-- The date-time moved by a number of nanoseconds. From within a leap second a move may stay
there; one that passes its end has spent that second. -/
def add (time : DateTime) (nanos : Int) : DateTime :=
  let moved := time.nanosecond + nanos
  if time.InLeapSecond ∧ nanosPerSecond ≤ moved then
    if moved < 2 * nanosPerSecond then { time with nanosecond := moved.toNat }
    else ofNanoseconds (time.nanoseconds + nanos - nanosPerSecond)
  else ofNanoseconds (time.nanoseconds + nanos)

/-- The date-time moved by a number of seconds. -/
def addSeconds (time : DateTime) (seconds : Int) : DateTime :=
  time.add (nanosPerSecond * seconds)

/-- The date-time, unless it lies outside the supported years. -/
def supported? (time : DateTime) : Option DateTime :=
  if time.date.InRange then some time else none

end DateTime

end DvbReceiver
