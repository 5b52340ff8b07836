import DvbReceiver.Table

/-!
# The registry of tables

The registry holds the latest table of each kind. Every store is numbered, so that a table that
came after a given moment can be told from one that was there before: `Registry.fresh?` takes
the number of stores made up to that moment. Clearing the registry forgets the tables but goes
on counting.
-/

namespace DvbReceiver

/-- A table and the number of the store that put it there. -/
structure Registry.Slot (α : Type) where
  table : α
  sequence : Nat
  deriving DecidableEq

/-- The latest table of each kind. -/
structure Registry where
  /-- How many stores there have been. -/
  sequence : Nat := 0
  pat : Option (Registry.Slot Pat) := none
  pmt : Option (Registry.Slot Pmt) := none
  tdt : Option (Registry.Slot Tdt) := none
  tot : Option (Registry.Slot Tot) := none
  deriving DecidableEq

namespace Registry

instance : Inhabited Registry := ⟨{}⟩

/-- The table of a slot, if it was stored after the first `since` stores. -/
def Slot.after? {α : Type} (slot : Option (Slot α)) (since : Nat) : Option α :=
  (slot.filter (since < ·.sequence)).map (·.table)

/-- Puts a table in the place of the last of its kind. -/
def store (registry : Registry) (table : Table) : Registry :=
  let sequence := registry.sequence + 1
  match table with
  | .pat table => { registry with sequence, pat := some { table, sequence } }
  | .pmt table => { registry with sequence, pmt := some { table, sequence } }
  | .tdt table => { registry with sequence, tdt := some { table, sequence } }
  | .tot table => { registry with sequence, tot := some { table, sequence } }

/-- The table held of a kind. -/
def get? (registry : Registry) : TableKind → Option Table
  | .pat => registry.pat.map (.pat ·.table)
  | .pmt => registry.pmt.map (.pmt ·.table)
  | .tdt => registry.tdt.map (.tdt ·.table)
  | .tot => registry.tot.map (.tot ·.table)

/-- The table held of a kind, if it was stored after the first `since` stores. -/
def fresh? (registry : Registry) (kind : TableKind) (since : Nat) : Option Table :=
  match kind with
  | .pat => (Slot.after? registry.pat since).map .pat
  | .pmt => (Slot.after? registry.pmt since).map .pmt
  | .tdt => (Slot.after? registry.tdt since).map .tdt
  | .tot => (Slot.after? registry.tot since).map .tot

/-- Forgets every table. -/
def clear (registry : Registry) : Registry :=
  { sequence := registry.sequence }

/-- The tables held, in the order of their kinds. -/
def tables (registry : Registry) : List Table :=
  TableKind.all.filterMap registry.get?

end Registry

end DvbReceiver
