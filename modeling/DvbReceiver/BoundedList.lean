import DvbReceiver.ParseError

/-!
# Lists of bounded length

A table holds a fixed number of entries at most. `BoundedList.push` adds one at the end, or
reports that the table is full; it never drops or reorders an entry.
-/

namespace DvbReceiver

/-- A list of at most `capacity` items. -/
structure BoundedList (α : Type) (capacity : Nat) where
  items : List α
  length_le : items.length ≤ capacity
  deriving DecidableEq

namespace BoundedList

variable {α : Type} {capacity : Nat}

/-- The list without items. -/
def empty : BoundedList α capacity := ⟨[], Nat.zero_le _⟩

instance : Inhabited (BoundedList α capacity) := ⟨empty⟩

/-- Adds `item` at the end; a full list is reported as one of the given table. -/
def push (list : BoundedList α capacity) (table : TableKind) (item : α) :
    Except ParseError (BoundedList α capacity) :=
  if room : list.items.length < capacity then
    .ok ⟨list.items ++ [item], by simp only [List.length_append, List.length_singleton]; omega⟩
  else
    .error (.capacityExceeded table capacity)

end BoundedList

end DvbReceiver
