import DvbReceiver.Calendar.Bcd
import DvbReceiver.Calendar.ModifiedJulian
import DvbReceiver.Section.Header

/-!
# The Time and Date Table

A TDT is a short section with the UTC time: a Modified Julian Date and three octets of packed
decimal digits. The table id is kept as it is found.
-/

namespace DvbReceiver

/-- A decoded TDT. -/
structure Tdt where
  header : ShortHeader
  /-- The Modified Julian Date. -/
  mjd : Nat
  hours : Nat
  minutes : Nat
  seconds : Nat
  deriving DecidableEq, Repr

namespace Tdt

/-- The bytes of a TDT section. -/
def size : Nat := 8

/-- The UTC date-time, if the fields form one. -/
def utc? (tdt : Tdt) : Option DateTime :=
  ModifiedJulian.dateTime? tdt.mjd tdt.hours tdt.minutes tdt.seconds

/-- Decodes a TDT section. -/
def decode (buffer : Bytes) : Except ParseError Tdt := do
  Bits.require buffer size
  return {
    header := ← ShortHeader.decode buffer
    mjd := ← Bits.u16At buffer 3
    hours := packedDecimal (← Bits.u8At buffer 5)
    minutes := packedDecimal (← Bits.u8At buffer 6)
    seconds := packedDecimal (← Bits.u8At buffer 7) }

end Tdt

end DvbReceiver
