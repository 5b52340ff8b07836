import DvbReceiver.Section.Split
import DvbReceiver.Table.Pat
import DvbReceiver.Table.Pmt
import DvbReceiver.Table.Tdt
import DvbReceiver.Table.Tot

/-!
# Tables of any kind

`Table.decode` runs the decoder of a given kind over a section, and `Table.ofSection?` lets the
section's table id choose the kind.
-/

namespace DvbReceiver

/-- A decoded table of one of the four kinds. -/
inductive Table
  | pat (pat : Pat)
  | pmt (pmt : Pmt)
  | tdt (tdt : Tdt)
  | tot (tot : Tot)
  deriving DecidableEq

namespace Table

def kind : Table → TableKind
  | pat _ => .pat
  | pmt _ => .pmt
  | tdt _ => .tdt
  | tot _ => .tot

/-- Decodes a section as a table of the given kind. -/
def decode (kind : TableKind) (buffer : Bytes) : Except ParseError Table :=
  match kind with
  | .pat => (Pat.decode buffer).map pat
  | .pmt => (Pmt.decode buffer).map pmt
  | .tdt => (Tdt.decode buffer).map tdt
  | .tot => (Tot.decode buffer).map tot

/-- The kind that a section announces in its first octet. -/
def announced? (buffer : Bytes) : Option TableKind :=
  buffer.head?.bind fun octet => TableKind.ofTableId? octet.toNat

/-- Decodes a section as the kind it announces; `none` if it announces no kind of table. -/
def ofSection? (buffer : Bytes) : Option (Except ParseError Table) :=
  (announced? buffer).map (decode · buffer)

/-- What each section of a recording decodes to, in order. -/
def ofRecording (data : Bytes) : List (Option (Except ParseError Table)) :=
  (Section.split data).map ofSection?

end Table

end DvbReceiver
