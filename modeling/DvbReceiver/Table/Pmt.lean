import DvbReceiver.BoundedList
import DvbReceiver.Section.Header
import DvbReceiver.Stream

/-!
# The Program Map Table

A PMT lists the elementary streams of one programme. Descriptors stand behind the header and
behind each stream record; they are skipped by their declared length and not looked at.
-/

namespace DvbReceiver

/-- The header of a PMT section. The table id extension is the programme number. -/
structure Pmt.Header extends LongHeader where
  pcrPid : Nat
  /-- The bytes of descriptors between the header and the first stream record. -/
  programInfoLength : Nat
  deriving DecidableEq, Repr

/-- One elementary stream. -/
structure Pmt.Stream where
  streamType : Nat
  pid : Nat
  /-- The bytes of descriptors behind this record. -/
  infoLength : Nat
  deriving DecidableEq, Repr

/-- A decoded PMT. -/
structure Pmt where
  header : Pmt.Header
  streams : BoundedList Pmt.Stream 20
  deriving DecidableEq

namespace Pmt

/-- The bytes before the programme's descriptors. -/
def headerSize : Nat := 12

/-- The bytes of one stream record without its descriptors. -/
def streamSize : Nat := 5

/-- The part of the section length that is neither descriptors nor stream records: the header
behind the length field, and the checksum. -/
def overhead : Nat := 13

def programNumber (pmt : Pmt) : Nat := pmt.header.tableIdExtension

/-- The codec for a stream, if the player has it. -/
def Stream.codec? (stream : Stream) : Option Codec := Codec.ofStreamType? stream.streamType

/-- The first stream of a video type. -/
def firstVideo? (pmt : Pmt) : Option Stream :=
  pmt.streams.items.find? (·.streamType ∈ videoStreamTypes)

/-- The first stream of an audio type. -/
def firstAudio? (pmt : Pmt) : Option Stream :=
  pmt.streams.items.find? (·.streamType ∈ audioStreamTypes)

/-- Reads the header of a PMT section. -/
def Header.decode (buffer : Bytes) : Except ParseError Header := do
  return {
    toLongHeader := ← LongHeader.decode TableKind.pmt.tableId buffer
    pcrPid := ← Bits.lowBits buffer 8 13
    programInfoLength := ← Bits.lowBits buffer 10 12 }

/-- Reads one stream record. -/
def Stream.decode (buffer : Bytes) : Except ParseError Stream := do
  return {
    streamType := ← Bits.u8At buffer 0
    pid := ← Bits.lowBits buffer 1 13
    infoLength := ← Bits.lowBits buffer 3 12 }

/-- The bytes from the start of a stream record to the start of the next. -/
def Stream.stride (stream : Stream) : Nat := streamSize + stream.infoLength

/-- Reads stream records from `buffer` until they cover `declared` bytes, behind those of
`read`. -/
def readStreams (buffer : Bytes) (declared : Nat) (read : BoundedList Stream 20) :
    Except ParseError (BoundedList Stream 20) :=
  if declared = 0 then .ok read else do
    let stream ← Stream.decode buffer
    let read ← read.push .pmt stream
    readStreams (buffer.drop stream.stride) (declared - stream.stride) read
termination_by declared
decreasing_by simp only [Stream.stride, streamSize]; omega

/-- Decodes a PMT section. -/
def decode (buffer : Bytes) : Except ParseError Pmt := do
  let header ← Header.decode buffer
  let streams ←
    readStreams (buffer.drop (headerSize + header.programInfoLength))
      (header.sectionLength - (overhead + header.programInfoLength)) .empty
  return { header, streams }

end Pmt

end DvbReceiver
