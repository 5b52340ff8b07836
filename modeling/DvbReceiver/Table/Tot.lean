import DvbReceiver.BoundedList
import DvbReceiver.Calendar.Bcd
import DvbReceiver.Section.Header

/-!
# The Time Offset Table

A TOT repeats the UTC time and adds a loop of descriptors. Those with the tag `0x58` hold the
local time offsets, 13 bytes for each country or region.

Descriptors are looked for every 15 bytes, which is one offset entry with the two bytes before
it. The declared length of the loop is used up by each descriptor's own length. So a descriptor
of another size is followed by the one 15 bytes on, not by the one behind its last byte.
-/

namespace DvbReceiver

/-- On which side of UTC the local time lies. -/
inductive Polarity
  /-- Local time is UTC plus the offset. -/
  | ahead
  /-- Local time is UTC less the offset. -/
  | behind
  deriving DecidableEq, Repr

/-- The local time offset of one country or region. -/
structure LocalTimeOffset where
  /-- The three octets of the country code. -/
  countryCode : Bytes
  region : Nat
  polarity : Polarity
  hours : Nat
  minutes : Nat
  /-- The Modified Julian Date on which the next offset takes effect. -/
  changeMjd : Nat
  /-- The time of day of the change as broadcast, six packed decimal digits. -/
  changeTime : Nat
  nextHours : Nat
  nextMinutes : Nat
  deriving DecidableEq, Repr

/-- One descriptor of the loop; only offset descriptors have entries. -/
structure Tot.Descriptor where
  tag : Nat
  length : Nat
  entries : BoundedList LocalTimeOffset 20
  deriving DecidableEq

/-- A decoded TOT. The time of day is kept as broadcast, in packed decimal digits. -/
structure Tot where
  header : ShortHeader
  /-- The Modified Julian Date. -/
  mjd : Nat
  hours : Nat
  minutes : Nat
  seconds : Nat
  /-- The declared bytes of the descriptor loop. -/
  loopLength : Nat
  descriptors : BoundedList Tot.Descriptor 20
  deriving DecidableEq

namespace LocalTimeOffset

/-- The bytes of one entry. -/
def size : Nat := 13

/-- Reads the entry that the buffer starts with. -/
def decode (buffer : Bytes) : Except ParseError LocalTimeOffset := do
  Bits.require buffer size
  return {
    countryCode := buffer.take 3
    region := ← Bits.extract buffer 24 6
    polarity := if ← Bits.flag buffer 31 then .behind else .ahead
    hours := packedDecimal (← Bits.u8At buffer 4)
    minutes := packedDecimal (← Bits.u8At buffer 5)
    changeMjd := ← Bits.u16At buffer 6
    changeTime := ← Bits.extract buffer 64 24
    nextHours := packedDecimal (← Bits.u8At buffer 11)
    nextMinutes := packedDecimal (← Bits.u8At buffer 12) }

/-- The offset in seconds, negative behind UTC. -/
def inSeconds (offset : LocalTimeOffset) : Int :=
  let magnitude : Nat := 3600 * offset.hours + 60 * offset.minutes
  match offset.polarity with
  | .ahead => magnitude
  | .behind => -magnitude

end LocalTimeOffset

namespace Tot

/-- The tag of local time offset descriptors. -/
def offsetTag : Nat := 0x58

/-- The bytes before the descriptor loop. -/
def headerSize : Nat := 10

/-- The bytes from one descriptor to the place where the next is looked for. -/
def stride : Nat := 15

/-- The bytes of a descriptor before its body: the tag and the length. -/
def descriptorPrefix : Nat := 2

/-- Every offset of the table in broadcast order. -/
def offsets (tot : Tot) : List LocalTimeOffset :=
  tot.descriptors.items.flatMap (·.entries.items)

/-- The offset for a country, found without regard to the case of ASCII letters; else the first
offset of the table. -/
def offsetFor? (tot : Tot) (country : Option String) : Option LocalTimeOffset :=
  let own := country.bind fun name =>
    tot.offsets.find? fun offset => Bytes.SameLetters offset.countryCode (Bytes.ofString name)
  own.or tot.offsets.head?

/-- Reads the entries of an offset descriptor's body, behind those of `read`. Bytes that do not
fill an entry are left over. -/
def readEntries (body : Bytes) (read : BoundedList LocalTimeOffset 20) :
    Except ParseError (BoundedList LocalTimeOffset 20) :=
  if body.length < LocalTimeOffset.size then .ok read else do
    let entry ← LocalTimeOffset.decode (body.take LocalTimeOffset.size)
    let read ← read.push .tot entry
    readEntries (body.drop LocalTimeOffset.size) read
termination_by body.length
decreasing_by simp_all only [LocalTimeOffset.size, List.length_drop]; omega

/-- Reads the descriptor that the buffer starts with. The body of an offset descriptor has to be
all there. -/
def Descriptor.decode (buffer : Bytes) : Except ParseError Descriptor := do
  let tag ← Bits.u8At buffer 0
  let length ← Bits.u8At buffer 1
  if tag = offsetTag then
    let body := buffer.drop descriptorPrefix
    Bits.require body length
    return { tag, length, entries := ← readEntries (body.take length) .empty }
  else
    return { tag, length, entries := .empty }

/-- Reads descriptors from `buffer` on, behind those of `read`, until they use up `declared`
bytes. -/
def readDescriptors (buffer : Bytes) (declared : Nat) (read : BoundedList Descriptor 20) :
    Except ParseError (BoundedList Descriptor 20) :=
  if declared = 0 then .ok read else do
    let descriptor ← Descriptor.decode buffer
    let read ← read.push .tot descriptor
    readDescriptors (buffer.drop stride) (declared - (descriptor.length + descriptorPrefix)) read
termination_by declared
decreasing_by simp only [descriptorPrefix]; omega

/-- Decodes a TOT section. -/
def decode (buffer : Bytes) : Except ParseError Tot := do
  Bits.require buffer headerSize
  let loopLength ← Bits.lowBits buffer 8 12
  let descriptors ← readDescriptors (buffer.drop headerSize) loopLength .empty
  return {
    header := ← ShortHeader.decode buffer
    mjd := ← Bits.u16At buffer 3
    hours := ← Bits.u8At buffer 5
    minutes := ← Bits.u8At buffer 6
    seconds := ← Bits.u8At buffer 7
    loopLength
    descriptors }

end Tot

end DvbReceiver
