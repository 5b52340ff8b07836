/-!
# Settings of an acquisition

What to tune to, which channel to begin with, and how long each phase may wait. Every setting
has a default. Times are in milliseconds.
-/

namespace DvbReceiver

/-- The delivery systems that the tuner knows. -/
inductive Standard
  | dvbT
  | dvbT2
  | dvbC
  deriving DecidableEq, Repr

namespace Standard

/-- The standards in the order in which they are listed. -/
def all : List Standard := [dvbT, dvbT2, dvbC]

/-- The name that settings use. -/
def name : Standard → String
  | dvbT => "DvbT"
  | dvbT2 => "DvbT2"
  | dvbC => "DvbC"

/-- The standard with this name. -/
def ofName? (name : String) : Option Standard :=
  all.find? (·.name = name)

end Standard

/-- What the tuner is asked to lock on. -/
structure Tuning where
  frequencyHz : Nat := 754000000
  bandwidthMhz : Nat := 8
  standard : Standard := .dvbT
  deriving DecidableEq, Repr

/-- The settings of an acquisition. -/
structure Config extends Tuning where
  /-- The service index to begin with. -/
  initialChannel : Nat := 1
  tunerLockTimeout : Nat := 10000
  /-- The limit of the waits for a PAT and for a PMT. -/
  tableTimeout : Nat := 5000
  /-- The limit of the waits for a TDT and for a TOT. -/
  timeTableTimeout : Nat := 35000
  /-- The country whose local time is shown. -/
  countryCode : Option String := none
  deriving DecidableEq, Repr

instance : Inhabited Config := ⟨{}⟩

end DvbReceiver
