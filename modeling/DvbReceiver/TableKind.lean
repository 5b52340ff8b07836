/-!
# The kinds of table a receiver decodes

Each kind is announced by the table id in the first octet of its sections:
`TableKind.ofTableId?` and `TableKind.tableId` go between the two.
-/

namespace DvbReceiver

/-- The tables that acquisition needs. -/
inductive TableKind
  /-- Program Association Table: which programmes there are. -/
  | pat
  /-- Program Map Table: which streams a programme has. -/
  | pmt
  /-- Time and Date Table: the UTC time. -/
  | tdt
  /-- Time Offset Table: the UTC time and the local offsets. -/
  | tot
  deriving DecidableEq, Repr

namespace TableKind

/-- The kinds in the order in which they are listed. -/
def all : List TableKind := [pat, pmt, tdt, tot]

/-- The table id that sections of this kind carry. -/
def tableId : TableKind → Nat
  | pat => 0x00
  | pmt => 0x02
  | tdt => 0x70
  | tot => 0x73

/-- The kind of the sections with this table id. -/
def ofTableId? (tableId : Nat) : Option TableKind :=
  all.find? (·.tableId = tableId)

/-- The usual abbreviation. -/
def name : TableKind → String
  | pat => "PAT"
  | pmt => "PMT"
  | tdt => "TDT"
  | tot => "TOT"

theorem ofTableId?_tableId (kind : TableKind) : ofTableId? kind.tableId = some kind := by
  cases kind <;> rfl

end TableKind

end DvbReceiver
