import DvbReceiver.BoundedList
import DvbReceiver.Section.Header

/-!
# The Program Association Table

A PAT names the programmes of a transport stream, each with the PID on which its PMT is sent.
The service at index 0 is reserved for network information and is never tuned.

The service records fill the section from its eighth byte to the checksum. A record is read
before the capacity is looked at, and a section length too short for a header lists nothing.
-/

namespace DvbReceiver

/-- One programme: its number and the PID of its PMT. -/
structure Pat.Service where
  programNumber : Nat
  pid : Nat
  deriving DecidableEq, Repr

/-- A decoded PAT. The table id extension of its header is the transport stream id. -/
structure Pat where
  header : LongHeader
  services : BoundedList Pat.Service 20
  deriving DecidableEq

namespace Pat

/-- The bytes before the first service record. -/
def headerSize : Nat := 8

/-- The bytes of one service record. -/
def serviceSize : Nat := 4

/-- The part of the section length that is not service records: the header behind the length
field, and the checksum. -/
def overhead : Nat := 9

/-- The index that is never tuned. -/
def reservedIndex : Nat := 0

def transportStreamId (pat : Pat) : Nat := pat.header.tableIdExtension

def serviceCount (pat : Pat) : Nat := pat.services.items.length

/-- The service at an index. -/
def service? (pat : Pat) (index : Nat) : Option Service := pat.services.items[index]?

/-- The PMT's PID of the first service with this programme number. -/
def pmtPid? (pat : Pat) (programNumber : Nat) : Option Nat :=
  (pat.services.items.find? (·.programNumber = programNumber)).map (·.pid)

/-- Reads one service record. -/
def Service.decode (buffer : Bytes) : Except ParseError Service := do
  return {
    programNumber := ← Bits.u16At buffer 0
    pid := ← Bits.lowBits buffer 2 13 }

/-- Reads service records from `buffer` until they cover `declared` bytes, behind those of
`read`. -/
def readServices (buffer : Bytes) (declared : Nat) (read : BoundedList Service 20) :
    Except ParseError (BoundedList Service 20) :=
  if declared = 0 then .ok read else do
    let service ← Service.decode buffer
    let read ← read.push .pat service
    readServices (buffer.drop serviceSize) (declared - serviceSize) read
termination_by declared
decreasing_by simp only [serviceSize]; omega

/-- Decodes a PAT section. -/
def decode (buffer : Bytes) : Except ParseError Pat := do
  let header ← LongHeader.decode TableKind.pat.tableId buffer
  let services ←
    readServices (buffer.drop headerSize) (header.sectionLength - overhead) .empty
  return { header, services }

end Pat

end DvbReceiver
