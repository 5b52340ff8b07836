import DvbReceiver.Table.Tdt
import DvbReceiver.Table.Tot

/-!
# Local time

Local time is the UTC time moved by the offset that a TOT gives for the receiver's country. A
TOT without offsets, or no TOT at all, leaves UTC as it is.
-/

namespace DvbReceiver.LocalTime

/-- The local time at a UTC time, carried over minutes, hours and the date. -/
def ofUtc (utc : DateTime) (offset : LocalTimeOffset) : DateTime :=
  utc.addSeconds offset.inSeconds

/-- The local time of a country at a UTC time. -/
def resolve (utc : DateTime) (tot : Option Tot) (country : Option String) : DateTime :=
  match tot.bind (·.offsetFor? country) with
  | some offset => ofUtc utc offset
  | none => utc

end DvbReceiver.LocalTime
