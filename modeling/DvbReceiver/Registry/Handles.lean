import DvbReceiver.Registry

/-!
# Handles on registries

Several parties share a registry through handles. A handle is a number; it names one of the
registries there are, and a copy of a handle names the same one.
-/

namespace DvbReceiver.Registry

/-- Registries and the handles on them. -/
structure Handles where
  registries : List Registry
  /-- For each handle the position of its registry. -/
  targets : List Nat
  deriving DecidableEq

namespace Handles

/-- One empty registry under handle 0. -/
def start : Handles := ⟨[{}], [0]⟩

/-- The position of a handle's registry. -/
def target (handles : Handles) (handle : Nat) : Nat :=
  handles.targets[handle]?.getD 0

/-- The registry of a handle. -/
def registry (handles : Handles) (handle : Nat) : Registry :=
  handles.registries[handles.target handle]?.getD {}

/-- Changes the registry of a handle, and so of every copy of it. -/
def modify (handles : Handles) (handle : Nat) (change : Registry → Registry) : Handles :=
  { handles with registries := handles.registries.modify (handles.target handle) change }

/-- Stores a table through a handle. -/
def store (handles : Handles) (handle : Nat) (table : Table) : Handles :=
  handles.modify handle (·.store table)

/-- Clears the registry of a handle. -/
def clear (handles : Handles) (handle : Nat) : Handles :=
  handles.modify handle Registry.clear

/-- Adds a copy of a handle. Its number is the number of handles before. -/
def copy (handles : Handles) (handle : Nat) : Handles :=
  { handles with targets := handles.targets ++ [handles.target handle] }

/-- Adds an empty registry with a handle of its own. -/
def new (handles : Handles) : Handles where
  registries := handles.registries ++ [{}]
  targets := handles.targets ++ [handles.registries.length]

/-- The number that the next handle gets. -/
def count (handles : Handles) : Nat := handles.targets.length

end Handles

end DvbReceiver.Registry
