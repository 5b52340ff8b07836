import DvbReceiver.Bits

/-!
# Section headers

Every section begins with its table id, a syntax indicator and the number of bytes that follow.
Sections of the long form (`LongHeader`) go on with a table id extension, a version and the
section's place among its siblings. Those of the short form (`ShortHeader`) do not.
-/

namespace DvbReceiver

/-- The first three bytes of a section. -/
structure ShortHeader where
  tableId : Nat
  sectionSyntaxIndicator : Bool
  /-- How many bytes follow this field. -/
  sectionLength : Nat
  deriving DecidableEq, Repr

/-- The first eight bytes of a section of the long form. -/
structure LongHeader extends ShortHeader where
  /-- The transport stream id of a PAT, the programme number of a PMT. -/
  tableIdExtension : Nat
  versionNumber : Nat
  currentNextIndicator : Bool
  sectionNumber : Nat
  lastSectionNumber : Nat
  deriving DecidableEq, Repr

/-- Reads a short header. -/
def ShortHeader.decode (buffer : Bytes) : Except ParseError ShortHeader := do
  return {
    tableId := ← Bits.u8At buffer 0
    sectionSyntaxIndicator := ← Bits.flag buffer 8
    sectionLength := ← Bits.lowBits buffer 1 12 }

/-- Reads a long header with the expected table id. A wrong table id is reported before missing
bytes, as long as there is a first byte. -/
def LongHeader.decode (expected : Nat) (buffer : Bytes) : Except ParseError LongHeader := do
  let found ← Bits.u8At buffer 0
  if found ≠ expected then .error (.wrongTableId expected found) else
    Bits.require buffer 8
    return {
      toShortHeader := ← ShortHeader.decode buffer
      tableIdExtension := ← Bits.u16At buffer 3
      versionNumber := ← Bits.extract buffer 42 5
      currentNextIndicator := ← Bits.flag buffer 47
      sectionNumber := ← Bits.u8At buffer 6
      lastSectionNumber := ← Bits.u8At buffer 7 }

end DvbReceiver
