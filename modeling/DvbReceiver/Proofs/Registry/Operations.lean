import DvbReceiver.Registry.Handles
import DvbReceiver.Proofs.Registry.Stores
import Mathlib.Data.List.Induction

/-!
# What is done to registries

An operation goes through a handle. `Handles.perform` carries it out, and `Operation.change` is what
becomes of the registry that it reaches.

A registry keeps one slot for each kind of table, yet its slots tell its whole history: after any
operations on one registry the table held of a kind is the last one that was stored and not cleared,
and its number is its place among the stores (`slot?_ofOperations_eq_some_iff`).
-/

namespace DvbReceiver.Registry

/-- What can be done through handles. -/
inductive Operation
  | store (handle : Nat) (table : Table)
  /-- A section is decoded as a table of the given kind and stored if it is accepted. -/
  | submit (handle : Nat) (kind : TableKind) (bytes : Bytes)
  | clear (handle : Nat)
  | copy (handle : Nat)
  | new

namespace Operation

/-- The handle that the operation goes through. -/
def handle? : Operation → Option Nat
  | store handle _ | submit handle _ _ | clear handle | copy handle => some handle
  | new => none

/-- The table that is stored, if any. A rejected section stores nothing. -/
def stored? : Operation → Option Table
  | store _ table => some table
  | submit _ kind bytes => (Table.decode kind bytes).toOption
  | clear _ | copy _ | new => none

/-- The operation makes a registry forget its tables. -/
def Clears : Operation → Prop
  | clear _ => True
  | store _ _ | submit _ _ _ | copy _ | new => False

/-- The operation makes a handle. -/
def makesHandle : Operation → Bool
  | copy _ | new => true
  | store _ _ | submit _ _ _ | clear _ => false

/-- What becomes of the registry that the operation reaches. -/
def change : Operation → Registry → Registry
  | store _ table, registry => registry.store table
  | submit _ kind bytes, registry =>
    match Table.decode kind bytes with
    | .ok table => registry.store table
    | .error _ => registry
  | clear _, registry => registry.clear
  | copy _, registry | new, registry => registry

end Operation

/-- Carries out an operation. -/
def Handles.perform (handles : Handles) : Operation → Handles
  | .store handle table => handles.store handle table
  | .submit handle kind bytes =>
    match Table.decode kind bytes with
    | .ok table => handles.store handle table
    | .error _ => handles
  | .clear handle => handles.clear handle
  | .copy handle => handles.copy handle
  | .new => handles.new

/-- How the last entry of a list takes part when the list is split at an entry. -/
theorem split_concat {α : Type} {list before after : List α} {last entry : α} :
    list ++ [last] = before ++ entry :: after ↔
      (before = list ∧ entry = last ∧ after = []) ∨
        ∃ earlier, after = earlier ++ [last] ∧ list = before ++ entry :: earlier := by
  constructor
  · intro h
    rcases List.eq_nil_or_concat after with rfl | ⟨earlier, final, rfl⟩
    · obtain ⟨rfl, hlast⟩ := List.append_inj' h rfl
      cases hlast
      exact .inl ⟨rfl, rfl, rfl⟩
    · rw [List.concat_eq_append, ← List.cons_append, ← List.append_assoc] at h
      obtain ⟨rfl, hlast⟩ := List.append_inj' h rfl
      cases hlast
      exact .inr ⟨earlier, List.concat_eq_append, rfl⟩
  · rintro (⟨rfl, rfl, rfl⟩ | ⟨earlier, rfl, rfl⟩)
    · rfl
    · simp

/-! ## One registry -/

/-- An empty registry after the operations that reach it. -/
def ofOperations (operations : List Operation) : Registry :=
  operations.foldl (fun registry operation => operation.change registry) {}

theorem ofOperations_concat (operations : List Operation) (operation : Operation) :
    ofOperations (operations ++ [operation]) = operation.change (ofOperations operations) := by
  rw [ofOperations, List.foldl_append]
  rfl

theorem get?_eq (registry : Registry) (kind : TableKind) :
    registry.get? kind = (registry.slot? kind).map (·.table) := by
  cases kind <;> simp [get?, slot?, Function.comp_def]

/-- An operation stores a table, clears, or leaves the registry as it is. -/
theorem Operation.change_cases (operation : Operation) (registry : Registry) :
    (∃ table, operation.stored? = some table ∧ ¬operation.Clears ∧
      operation.change registry = registry.store table) ∨
    (operation.stored? = none ∧ operation.Clears ∧ operation.change registry = registry.clear) ∨
    (operation.stored? = none ∧ ¬operation.Clears ∧ operation.change registry = registry) := by
  cases operation with
  | store handle table => exact .inl ⟨table, rfl, id, rfl⟩
  | submit handle kind bytes =>
    cases hdecode : Table.decode kind bytes with
    | ok table =>
      exact .inl ⟨table, by simp [stored?, hdecode, Except.toOption], id, by simp [change, hdecode]⟩
    | error error =>
      exact .inr (.inr ⟨by simp [stored?, hdecode, Except.toOption], id, by simp [change, hdecode]⟩)
  | clear handle => exact .inr (.inl ⟨rfl, trivial, rfl⟩)
  | copy handle => exact .inr (.inr ⟨rfl, id, rfl⟩)
  | new => exact .inr (.inr ⟨rfl, id, rfl⟩)

theorem sequence_ofOperations (operations : List Operation) :
    (ofOperations operations).sequence = (operations.filterMap Operation.stored?).length := by
  induction operations using List.reverseRecOn with
  | nil => rfl
  | append_singleton operations operation ih =>
    rw [ofOperations_concat, List.filterMap_append, List.length_append, ← ih]
    rcases operation.change_cases (ofOperations operations) with
      ⟨table, hstored, -, heq⟩ | ⟨hstored, -, heq⟩ | ⟨hstored, -, heq⟩
    · simp [heq, hstored]
    · simp [heq, hstored, clear]
    · simp [heq, hstored]

/-- The slot's table was stored at the place of its number. No later operation stored one of its
kind or cleared. -/
def Holds (operations : List Operation) (slot : Slot Table) : Prop :=
  ∃ before operation after, operations = before ++ operation :: after ∧
    operation.stored? = some slot.table ∧
    slot.sequence = (before.filterMap Operation.stored?).length + 1 ∧
    ∀ later ∈ after, ¬later.Clears ∧ ∀ other ∈ later.stored?, other.kind ≠ slot.table.kind

theorem not_holds_nil (slot : Slot Table) : ¬Holds [] slot := by
  rintro ⟨before, operation, after, heq, -⟩
  simp at heq

/-- The last operation stores what is held, or it was held before and is not replaced. -/
theorem holds_concat {operations : List Operation} {operation : Operation} {slot : Slot Table} :
    Holds (operations ++ [operation]) slot ↔
      (operation.stored? = some slot.table ∧
        slot.sequence = (operations.filterMap Operation.stored?).length + 1) ∨
      (Holds operations slot ∧ ¬operation.Clears ∧
        ∀ other ∈ operation.stored?, other.kind ≠ slot.table.kind) := by
  constructor
  · rintro ⟨before, stored, after, heq, hstored, hsequence, hafter⟩
    rcases split_concat.1 heq with ⟨rfl, rfl, rfl⟩ | ⟨earlier, rfl, rfl⟩
    · exact .inl ⟨hstored, hsequence⟩
    · obtain ⟨hearlier, hoperation⟩ := List.forall_mem_append.1 hafter
      exact .inr ⟨⟨before, stored, earlier, rfl, hstored, hsequence, hearlier⟩,
        hoperation operation (List.mem_singleton_self operation)⟩
  · rintro (⟨hstored, hsequence⟩ |
      ⟨⟨before, stored, after, rfl, hstored, hsequence, hafter⟩, hlast⟩)
    · exact ⟨operations, operation, [], rfl, hstored, hsequence, List.forall_mem_nil _⟩
    · refine ⟨before, stored, after ++ [operation], by simp, hstored, hsequence, ?_⟩
      exact List.forall_mem_append.2 ⟨hafter, List.forall_mem_singleton.2 hlast⟩

/-- **The table held of a kind is the last one stored**, unless a clear came after it, and its
number is its place among the stores. -/
theorem slot?_ofOperations_eq_some_iff {operations : List Operation} {kind : TableKind}
    {slot : Slot Table} :
    (ofOperations operations).slot? kind = some slot ↔
      slot.table.kind = kind ∧ Holds operations slot := by
  induction operations using List.reverseRecOn with
  | nil =>
    have hnone : (ofOperations []).slot? kind = none := by cases kind <;> rfl
    simp [hnone, not_holds_nil]
  | append_singleton operations operation ih =>
    rw [ofOperations_concat, holds_concat]
    rcases operation.change_cases (ofOperations operations) with
      ⟨table, hstored, hclears, heq⟩ | ⟨hstored, hclears, heq⟩ | ⟨hstored, hclears, heq⟩
    · rw [heq, slot?_store, sequence_ofOperations]
      by_cases hkind : table.kind = kind
      · rw [if_pos hkind]
        constructor
        · rintro ⟨⟩
          exact ⟨hkind, .inl ⟨hstored, rfl⟩⟩
        · rintro ⟨hslot, ⟨hslotStored, hsequence⟩ | ⟨-, -, hother⟩⟩
          · rw [hstored, Option.some.injEq] at hslotStored
            obtain ⟨slotTable, sequence⟩ := slot
            cases hslotStored
            cases hsequence
            rfl
          · exact absurd (hkind.trans hslot.symm) (hother table hstored)
      · rw [if_neg hkind, ih]
        constructor
        · rintro ⟨hslot, hholds⟩
          refine ⟨hslot, .inr ⟨hholds, hclears, fun other hmem => ?_⟩⟩
          cases hstored.symm.trans hmem
          exact fun h => hkind (h.trans hslot)
        · rintro ⟨hslot, ⟨hslotStored, -⟩ | ⟨hholds, -⟩⟩
          · cases hstored.symm.trans hslotStored
            exact absurd hslot hkind
          · exact ⟨hslot, hholds⟩
    · have hnone : (ofOperations operations).clear.slot? kind = none := by cases kind <;> rfl
      simp [heq, hnone, hstored, hclears]
    · rw [heq, ih]
      simp [hstored, hclears]

end DvbReceiver.Registry
