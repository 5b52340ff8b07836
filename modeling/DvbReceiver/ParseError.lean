import DvbReceiver.TableKind
import DvbReceiver.Text.Digits

/-!
# Why a section cannot be decoded

`ParseError` lists the causes and `ParseError.message` words them.
-/

namespace DvbReceiver

/-- The causes for which a section is rejected. -/
inductive ParseError
  /-- The section carries another table id than the one asked for. -/
  | wrongTableId (expected found : Nat)
  /-- The bytes end before a field that the section declares. -/
  | truncated (needed available : Nat)
  /-- The section lists more entries than a table of its kind may hold. -/
  | capacityExceeded (table : TableKind) (capacity : Nat)
  /-- A bit field was asked for that is empty or wider than 32 bits. -/
  | invalidWidth (width : Nat)
  deriving DecidableEq, Repr

/-- The wording of the cause. -/
def ParseError.message : ParseError → String
  | .wrongTableId expected found =>
    "wrong table id: expected 0x" ++ Text.capitalHex 2 expected
      ++ ", found 0x" ++ Text.capitalHex 2 found
  | .truncated needed available =>
    s!"section truncated: need {needed} bytes, have {available}"
  | .capacityExceeded table capacity =>
    s!"{table.name} capacity of {capacity} entries exceeded"
  | .invalidWidth width => s!"invalid bit field width {width}"

end DvbReceiver
