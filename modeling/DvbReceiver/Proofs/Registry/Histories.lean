import DvbReceiver.Proofs.Registry.Operations
import Mathlib.Logic.Relation

/-!
# Shared registries and their histories

A history is a list of operations through handles. The handles made by copying one another form a
family, which the history alone tells (`SameFamily`), and an operation reaches the handles of the
family of its own handle (`Reaches`).

What a handle sees is what the history says (`refines_after`): how many tables were stored for its
family, which of them was the last of its kind and was not cleared since, and how many stores came
before that one. `Tracks` is what the handles have to do with the history at each moment, and one
operation keeps it (`Tracks.concat`).
-/

namespace DvbReceiver.Registry

/-- The handles after a history, which starts with one empty registry under handle 0. -/
def Handles.after (history : List Operation) : Handles := history.foldl perform start

/-! ## What a history says -/

/-- How many handles there are after a history. -/
def handleCount (history : List Operation) : Nat := 1 + history.countP Operation.makesHandle

/-- Every operation goes through a handle that there is by then. -/
inductive Issued : List Operation → Prop
  | nil : Issued []
  | concat {history : List Operation} {operation : Operation} (h : Issued history)
    (hhandle : ∀ handle ∈ operation.handle?, handle < handleCount history) :
    Issued (history ++ [operation])

/-- The one handle was made as a copy of the other. -/
def CopiedFrom (history : List Operation) (original copy : Nat) : Prop :=
  ∃ before after, history = before ++ .copy original :: after ∧ copy = handleCount before

/-- The two handles come from one by copying. -/
def SameFamily (history : List Operation) : Nat → Nat → Prop :=
  Relation.EqvGen (CopiedFrom history)

/-- The operation goes through a handle of the family. -/
def Reaches (history : List Operation) (handle : Nat) (operation : Operation) : Prop :=
  ∃ through ∈ operation.handle?, SameFamily history through handle

open Classical in
/-- The tables that the given operations store for the family of a handle, in order. -/
noncomputable def stores (history : List Operation) (handle : Nat) (operations : List Operation) :
    List Table :=
  (operations.filter (Reaches history handle ·)).filterMap Operation.stored?

/-- The table was stored for the family of the handle behind the operations `before`. Later the
family had no table of that kind and was not cleared. -/
def Stands (history : List Operation) (handle : Nat) (before : List Operation) (table : Table) :
    Prop :=
  ∃ operation after, history = before ++ operation :: after ∧ Reaches history handle operation ∧
    operation.stored? = some table ∧
    ∀ later ∈ after, Reaches history handle later →
      ¬later.Clears ∧ ∀ other ∈ later.stored?, other.kind ≠ table.kind

/-- What each handle sees is what the history says. -/
structure Handles.Refines (handles : Handles) (history : List Operation) : Prop where
  count_eq : handles.count = handleCount history
  sequence_eq : ∀ handle < handles.count,
    (handles.registry handle).sequence = (stores history handle history).length
  get?_iff : ∀ handle < handles.count, ∀ kind table,
    (handles.registry handle).get? kind = some table ↔
      table.kind = kind ∧ ∃ before, Stands history handle before table
  fresh?_iff : ∀ handle < handles.count, ∀ kind since table,
    (handles.registry handle).fresh? kind since = some table ↔
      table.kind = kind ∧ ∃ before, Stands history handle before table ∧
        since ≤ (stores history handle before).length
  /-- The handles of one family see the same registry. -/
  shared : ∀ one other, SameFamily history one other →
    handles.registry one = handles.registry other
  /-- The family sees what is done through its handles. -/
  seen : ∀ handle < handles.count, ∀ operation, Reaches history handle operation →
    (handles.perform operation).registry handle = operation.change (handles.registry handle)
  /-- No other handle sees it. -/
  unseen : ∀ handle < handles.count, ∀ operation,
    (∀ through ∈ operation.handle?, through < handles.count) → ¬Reaches history handle operation →
      (handles.perform operation).registry handle = handles.registry handle
  /-- A store leaves the other kinds as they were, for every handle. -/
  others : ∀ handle through table kind, table.kind ≠ kind →
    ((handles.store through table).registry handle).get? kind =
        (handles.registry handle).get? kind ∧
      ∀ since, ((handles.store through table).registry handle).fresh? kind since =
        (handles.registry handle).fresh? kind since

/-! ## Handles and their targets -/

theorem handleCount_concat (history : List Operation) (operation : Operation) :
    handleCount (history ++ [operation]) =
      handleCount history + if operation.makesHandle then 1 else 0 := by
  simp [handleCount, List.countP_append, List.countP_cons, Nat.add_assoc]

theorem copiedFrom_concat {history : List Operation} {operation : Operation} {original copy : Nat} :
    CopiedFrom (history ++ [operation]) original copy ↔
      CopiedFrom history original copy ∨
        (operation = .copy original ∧ copy = handleCount history) := by
  constructor
  · rintro ⟨before, after, heq, hcopy⟩
    rcases split_concat.1 heq with ⟨rfl, rfl, rfl⟩ | ⟨earlier, rfl, rfl⟩
    · exact .inr ⟨rfl, hcopy⟩
    · exact .inl ⟨before, earlier, rfl, hcopy⟩
  · rintro (⟨before, after, rfl, hcopy⟩ | ⟨rfl, hcopy⟩)
    · exact ⟨before, after ++ [operation], by simp, hcopy⟩
    · exact ⟨history, [], rfl, hcopy⟩

theorem SameFamily.concat {history : List Operation} {one other : Nat}
    (h : SameFamily history one other) (operation : Operation) :
    SameFamily (history ++ [operation]) one other :=
  h.mono fun _ _ hcopied => copiedFrom_concat.2 (.inl hcopied)

namespace Handles

/-- The positions of the registries of the handles that an operation makes. -/
def madeTargets (handles : Handles) : Operation → List Nat
  | .copy handle => [handles.target handle]
  | .new => [handles.registries.length]
  | .store _ _ | .submit _ _ _ | .clear _ => []

theorem targets_perform (handles : Handles) (operation : Operation) :
    (handles.perform operation).targets = handles.targets ++ handles.madeTargets operation := by
  cases operation with
  | submit handle kind bytes =>
    cases hdecode : Table.decode kind bytes <;> simp [perform, madeTargets, store, modify, hdecode]
  | _ => simp [perform, madeTargets, store, clear, modify, copy, new]

/-- An operation through a handle changes the registry of the handle. -/
theorem registries_perform (handles : Handles) {operation : Operation} {through : Nat}
    (h : operation.handle? = some through) :
    (handles.perform operation).registries =
      handles.registries.modify (handles.target through) operation.change := by
  have hid : handles.registries.modify (handles.target through) (fun registry => registry) =
      handles.registries := List.modify_id _ _
  cases operation with
  | store handle table | clear handle => cases h; rfl
  | submit handle kind bytes =>
    cases h
    rcases hdecode : Table.decode kind bytes with error | table
    · have hchange : (Operation.submit through kind bytes).change = fun registry => registry := by
        funext registry
        simp only [Operation.change, hdecode]
      simp only [perform, hdecode, hchange, hid]
    · have hchange : (Operation.submit through kind bytes).change = (·.store table) := by
        funext registry
        simp only [Operation.change, hdecode]
      simp only [perform, hdecode, hchange, store, modify]
  | copy handle => cases h; exact hid.symm
  | new => cases h

theorem registries_new (handles : Handles) :
    (handles.perform .new).registries = handles.registries ++ [({} : Registry)] := rfl

theorem target_perform (handles : Handles) (operation : Operation) {handle : Nat}
    (h : handle < handles.count) :
    (handles.perform operation).target handle = handles.target handle := by
  rw [target, target, targets_perform, List.getElem?_append_left h]

theorem target_perform_count (handles : Handles) {operation : Operation} {position : Nat}
    (h : handles.madeTargets operation = [position]) :
    (handles.perform operation).target handles.count = position := by
  rw [target, targets_perform, h, count, List.getElem?_append_right (Nat.le_refl _)]
  simp

theorem count_perform (handles : Handles) (operation : Operation) :
    (handles.perform operation).count =
      handles.count + if operation.makesHandle then 1 else 0 := by
  rw [count, targets_perform, List.length_append, count]
  cases operation <;> rfl

/-- The operation goes through a handle of the registry at the position. -/
def Aims (handles : Handles) (position : Nat) (operation : Operation) : Prop :=
  operation.handle?.map handles.target = some position

instance (handles : Handles) (position : Nat) : DecidablePred (handles.Aims position) :=
  fun _ => inferInstanceAs (Decidable (_ = _))

/-- What the handles have to do with the history that led to them. -/
structure Tracks (handles : Handles) (history : List Operation) : Prop where
  count_eq : handles.count = handleCount history
  target_lt : ∀ position ∈ handles.targets, position < handles.registries.length
  through_lt : ∀ operation ∈ history, ∀ through ∈ operation.handle?, through < handles.count
  copied : ∀ original copy, CopiedFrom history original copy →
    original < handles.count ∧ copy < handles.count ∧ handles.target original = handles.target copy
  sameFamily : ∀ one < handles.count, ∀ other < handles.count,
    handles.target one = handles.target other → SameFamily history one other
  registry_eq : ∀ position < handles.registries.length,
    handles.registries[position]? =
      some (ofOperations (history.filter (handles.Aims position ·)))

theorem tracks_start : start.Tracks [] where
  count_eq := rfl
  target_lt := by simp [start]
  through_lt := List.forall_mem_nil _
  copied := by
    rintro original copy ⟨before, after, heq, -⟩
    simp at heq
  sameFamily := by
    intro one hone other hother _
    have hcount : start.count = 1 := rfl
    rw [show one = other by omega]
    exact .refl _
  registry_eq := by
    intro position h
    have hposition : position = 0 := by simpa [start] using h
    subst hposition
    rfl

namespace Tracks

variable {handles : Handles} {history : List Operation} {operation : Operation}

theorem target_lt_of_lt (h : handles.Tracks history) {handle : Nat}
    (hhandle : handle < handles.count) : handles.target handle < handles.registries.length := by
  have hget : handles.targets[handle]? = some handles.targets[handle] :=
    List.getElem?_eq_getElem hhandle
  rw [target, hget, Option.getD_some]
  exact h.target_lt _ (List.getElem_mem hhandle)

/-- The earlier operations aim where they did. -/
theorem filter_aims_perform (h : handles.Tracks history) (position : Nat) :
    history.filter ((handles.perform operation).Aims position ·) =
      history.filter (handles.Aims position ·) := by
  refine List.filter_congr fun earlier hmem => ?_
  have heq : (handles.perform operation).Aims position earlier ↔ handles.Aims position earlier := by
    unfold Aims
    rcases hhandle : earlier.handle? with _ | through
    · rfl
    · rw [Option.map_some, Option.map_some,
        handles.target_perform operation (h.through_lt earlier hmem through hhandle)]
  simp [heq]

theorem target_lt_concat (h : handles.Tracks history)
    (hhandle : ∀ handle ∈ operation.handle?, handle < handles.count) :
    ∀ position ∈ (handles.perform operation).targets,
      position < (handles.perform operation).registries.length := by
  rw [targets_perform]
  rcases hthrough : operation.handle? with _ | through
  · cases operation with
    | new =>
      rw [registries_new, List.length_append, List.length_singleton]
      refine List.forall_mem_append.2 ⟨fun position hmem => ?_, ?_⟩
      · exact Nat.lt_add_right 1 (h.target_lt position hmem)
      · exact List.forall_mem_singleton.2 (Nat.lt_add_one _)
    | _ => cases hthrough
  · rw [registries_perform handles hthrough, List.length_modify]
    refine List.forall_mem_append.2 ⟨h.target_lt, ?_⟩
    cases operation with
    | copy original =>
      exact List.forall_mem_singleton.2 (h.target_lt_of_lt (hhandle original rfl))
    | new => cases hthrough
    | _ => exact List.forall_mem_nil _

theorem copied_concat (h : handles.Tracks history)
    (hhandle : ∀ handle ∈ operation.handle?, handle < handles.count) (original copy : Nat)
    (hcopied : CopiedFrom (history ++ [operation]) original copy) :
    original < (handles.perform operation).count ∧ copy < (handles.perform operation).count ∧
      (handles.perform operation).target original = (handles.perform operation).target copy := by
  rw [count_perform]
  rcases copiedFrom_concat.1 hcopied with hcopied | ⟨rfl, rfl⟩
  · obtain ⟨horiginal, hcopy, heq⟩ := h.copied original copy hcopied
    rw [target_perform _ _ horiginal, target_perform _ _ hcopy]
    exact ⟨by omega, by omega, heq⟩
  · have horiginal : original < handles.count := hhandle original rfl
    rw [← h.count_eq, target_perform _ _ horiginal, target_perform_count handles rfl]
    exact ⟨by omega, by simp [Operation.makesHandle], rfl⟩

/-- The handle that an operation makes is of the family of its target. -/
theorem sameFamily_made (h : handles.Tracks history)
    (hhandle : ∀ handle ∈ operation.handle?, handle < handles.count) {position other : Nat}
    (hmade : handles.madeTargets operation = [position]) (hother : other < handles.count)
    (htarget : handles.target other = position) :
    SameFamily (history ++ [operation]) handles.count other := by
  cases operation with
  | copy original =>
    cases hmade
    have hcopied : CopiedFrom (history ++ [.copy original]) original handles.count :=
      copiedFrom_concat.2 (.inr ⟨rfl, h.count_eq⟩)
    have hfamily := h.sameFamily other hother original (hhandle original rfl) htarget
    exact .symm _ _ (.trans _ _ _ (hfamily.concat _) (.rel _ _ hcopied))
  | new =>
    cases hmade
    exact absurd (h.target_lt_of_lt hother) (by omega)
  | store _ _ | submit _ _ _ | clear _ => cases hmade

theorem sameFamily_concat (h : handles.Tracks history)
    (hhandle : ∀ handle ∈ operation.handle?, handle < handles.count) (one : Nat)
    (hone : one < (handles.perform operation).count) (other : Nat)
    (hother : other < (handles.perform operation).count)
    (heq : (handles.perform operation).target one = (handles.perform operation).target other) :
    SameFamily (history ++ [operation]) one other := by
  -- A handle was there before, or the operation made it.
  have hcases : ∀ handle < (handles.perform operation).count, handle < handles.count ∨
      handle = handles.count ∧ ∃ position, handles.madeTargets operation = [position] := by
    intro handle hlt
    rw [count, targets_perform, List.length_append] at hlt
    rcases Nat.lt_or_ge handle handles.count with h | h
    · exact .inl h
    · unfold count at h ⊢
      cases operation <;> simp [madeTargets] at hlt ⊢ <;> omega
  rcases hcases one hone with hone | ⟨rfl, position, hmade⟩ <;>
    rcases hcases other hother with hother | ⟨rfl, position', hmade'⟩
  · rw [target_perform _ _ hone, target_perform _ _ hother] at heq
    exact (h.sameFamily one hone other hother heq).concat _
  · rw [target_perform _ _ hone, target_perform_count _ hmade'] at heq
    exact .symm _ _ (h.sameFamily_made hhandle hmade' hone heq)
  · rw [target_perform_count _ hmade, target_perform _ _ hother] at heq
    exact h.sameFamily_made hhandle hmade hother heq.symm
  · exact .refl _

theorem registry_eq_concat (h : handles.Tracks history)
    (hhandle : ∀ handle ∈ operation.handle?, handle < handles.count) (position : Nat)
    (hposition : position < (handles.perform operation).registries.length) :
    (handles.perform operation).registries[position]? =
      some (ofOperations
        ((history ++ [operation]).filter ((handles.perform operation).Aims position ·))) := by
  rw [List.filter_append, h.filter_aims_perform]
  rcases hthrough : operation.handle? with _ | through
  · -- Only `new` goes through no handle.
    cases operation with
    | new =>
      have hnone : [Operation.new].filter ((handles.perform .new).Aims position ·) = [] := by
        simp [Aims, Operation.handle?]
      rw [hnone, List.append_nil]
      rw [registries_new, List.length_append, List.length_singleton] at hposition
      rw [registries_new]
      rcases Nat.lt_or_ge position handles.registries.length with hlt | hge
      · rw [List.getElem?_append_left hlt, h.registry_eq position hlt]
      · have hnew : position = handles.registries.length := by omega
        have hempty : history.filter (handles.Aims position ·) = [] := by
          refine List.filter_eq_nil_iff.2 fun earlier hmem haims => ?_
          obtain ⟨through, hthrough, htarget⟩ :=
            Option.map_eq_some_iff.1 (of_decide_eq_true haims)
          have := h.target_lt_of_lt (h.through_lt earlier hmem through hthrough)
          omega
        rw [hempty, hnew, List.getElem?_append_right (Nat.le_refl _)]
        simp [ofOperations]
    | _ => cases hthrough
  · have hlt : through < handles.count := hhandle through hthrough
    rw [registries_perform handles hthrough, List.length_modify] at hposition
    rw [registries_perform handles hthrough, List.getElem?_modify, h.registry_eq position hposition]
    by_cases htarget : handles.target through = position
    · have haims : (handles.perform operation).Aims position operation := by
        rw [Aims, hthrough, Option.map_some, target_perform _ _ hlt, htarget]
      simp [htarget, haims, ofOperations_concat]
    · have haims : ¬(handles.perform operation).Aims position operation := by
        rw [Aims, hthrough, Option.map_some, target_perform _ _ hlt]
        simpa using htarget
      simp [htarget, haims]

/-- **One operation** leaves the handles in step with the history. -/
theorem concat (h : handles.Tracks history)
    (hhandle : ∀ handle ∈ operation.handle?, handle < handleCount history) :
    (handles.perform operation).Tracks (history ++ [operation]) := by
  rw [← h.count_eq] at hhandle
  exact {
    count_eq := by rw [count_perform, handleCount_concat, h.count_eq]
    target_lt := h.target_lt_concat hhandle
    through_lt := by
      rw [count_perform]
      refine List.forall_mem_append.2 ⟨fun earlier hmem through hthrough => ?_, ?_⟩
      · exact Nat.lt_add_right _ (h.through_lt earlier hmem through hthrough)
      · exact List.forall_mem_singleton.2 fun through hthrough =>
          Nat.lt_add_right _ (hhandle through hthrough)
    copied := h.copied_concat hhandle
    sameFamily := h.sameFamily_concat hhandle
    registry_eq := h.registry_eq_concat hhandle }

end Tracks

/-- **After every history** the handles are in step with it. -/
theorem tracks_after {history : List Operation} (h : Issued history) :
    (after history).Tracks history := by
  induction h with
  | nil => exact tracks_start
  | concat _ hhandle ih =>
    rw [after, List.foldl_append]
    exact ih.concat hhandle

namespace Tracks

variable {handles : Handles} {history : List Operation}

theorem target_eq_of_sameFamily (h : handles.Tracks history) {one other : Nat}
    (hfamily : SameFamily history one other) : handles.target one = handles.target other := by
  induction hfamily with
  | rel original copy hcopied => exact (h.copied original copy hcopied).2.2
  | refl => rfl
  | symm _ _ _ ih => exact ih.symm
  | trans _ _ _ _ _ ih₁ ih₂ => exact ih₁.trans ih₂

/-- A family has only handles that there are. -/
theorem lt_of_sameFamily (h : handles.Tracks history) {one other : Nat}
    (hfamily : SameFamily history one other) : one < handles.count ↔ other < handles.count := by
  induction hfamily with
  | rel original copy hcopied =>
    obtain ⟨horiginal, hcopy, -⟩ := h.copied original copy hcopied
    exact iff_of_true horiginal hcopy
  | refl => rfl
  | symm _ _ _ ih => exact ih.symm
  | trans _ _ _ _ _ ih₁ ih₂ => exact ih₁.trans ih₂

theorem reaches_iff (h : handles.Tracks history) {handle : Nat} (hhandle : handle < handles.count)
    {operation : Operation} (hthrough : ∀ through ∈ operation.handle?, through < handles.count) :
    Reaches history handle operation ↔ handles.Aims (handles.target handle) operation := by
  rw [Aims, Option.map_eq_some_iff]
  constructor
  · rintro ⟨through, hmem, hfamily⟩
    exact ⟨through, hmem, h.target_eq_of_sameFamily hfamily⟩
  · rintro ⟨through, hmem, htarget⟩
    exact ⟨through, hmem, h.sameFamily through (hthrough through hmem) handle hhandle htarget⟩

open Classical in
/-- **A handle sees the registry that its family's operations make.** -/
theorem registry_eq_ofOperations (h : handles.Tracks history) {handle : Nat}
    (hhandle : handle < handles.count) :
    handles.registry handle =
      ofOperations (history.filter (Reaches history handle ·)) := by
  have hfilter : history.filter (Reaches history handle ·) =
      history.filter (handles.Aims (handles.target handle) ·) :=
    List.filter_congr fun operation hmem => by
      simp [h.reaches_iff hhandle (h.through_lt operation hmem)]
  rw [registry, h.registry_eq _ (h.target_lt_of_lt hhandle), hfilter, Option.getD_some]

open Classical in
/-- What the family's operations hold stands in the whole history. -/
theorem holds_filter_iff {handle : Nat} {slot : Slot Table} :
    Holds (history.filter (Reaches history handle ·)) slot ↔
      ∃ before, Stands history handle before slot.table ∧
        slot.sequence = (stores history handle before).length + 1 := by
  constructor
  · rintro ⟨front, operation, back, heq, hstored, hsequence, hback⟩
    obtain ⟨before, rest, hhistory, rfl, hrest⟩ := List.filter_eq_append_iff.1 heq
    obtain ⟨skipped, after, rfl, hskipped, hreaches, rfl⟩ := List.filter_eq_cons_iff.1 hrest
    have hnone : skipped.filter (Reaches history handle ·) = [] :=
      List.filter_eq_nil_iff.2 hskipped
    refine ⟨before ++ skipped, ⟨operation, after, by simp [hhistory], by simpa using hreaches,
      hstored, fun later hmem hlater => ?_⟩, ?_⟩
    · exact hback later (List.mem_filter.2 ⟨hmem, by simpa using hlater⟩)
    · rw [stores, List.filter_append, hnone, List.append_nil, hsequence]
  · rintro ⟨before, ⟨operation, after, hhistory, hreaches, hstored, hafter⟩, hsequence⟩
    refine ⟨before.filter (Reaches history handle ·), operation,
      after.filter (Reaches history handle ·), ?_, hstored, hsequence, fun later hmem => ?_⟩
    · have heq := congrArg (List.filter (Reaches history handle ·)) hhistory
      rwa [List.filter_append, List.filter_cons_of_pos (by simpa using hreaches)] at heq
    · obtain ⟨hmem, hlater⟩ := List.mem_filter.1 hmem
      exact hafter later hmem (by simpa using hlater)

theorem slot?_eq_some_iff (h : handles.Tracks history) {handle : Nat}
    (hhandle : handle < handles.count) {kind : TableKind} {slot : Slot Table} :
    (handles.registry handle).slot? kind = some slot ↔
      slot.table.kind = kind ∧ ∃ before, Stands history handle before slot.table ∧
        slot.sequence = (stores history handle before).length + 1 := by
  rw [h.registry_eq_ofOperations hhandle, slot?_ofOperations_eq_some_iff, holds_filter_iff]

/-- What an operation does to the registry that a handle sees. -/
theorem registry_perform (h : handles.Tracks history) {operation : Operation}
    (hthrough : ∀ through ∈ operation.handle?, through < handles.count) {handle : Nat}
    (hhandle : handle < handles.count) :
    (handles.perform operation).registry handle =
      if handles.Aims (handles.target handle) operation then
        operation.change (handles.registry handle)
      else handles.registry handle := by
  have hlt := h.target_lt_of_lt hhandle
  rw [registry, registry, target_perform _ _ hhandle]
  rcases hsome : operation.handle? with _ | through
  · cases operation with
    | new =>
      rw [registries_new, List.getElem?_append_left hlt, if_neg (by simp [Aims, Operation.handle?])]
    | _ => cases hsome
  · rw [registries_perform handles hsome, List.getElem?_modify, h.registry_eq _ hlt]
    by_cases htarget : handles.target through = handles.target handle <;>
      simp [Aims, hsome, htarget]

end Tracks

/-- A store leaves the other kinds of every registry as they were. -/
theorem slot?_registry_store (handles : Handles) (handle through : Nat) {table : Table}
    {kind : TableKind} (h : table.kind ≠ kind) :
    ((handles.store through table).registry handle).slot? kind =
      (handles.registry handle).slot? kind := by
  have hregistries : (handles.store through table).registries =
      handles.registries.modify (handles.target through) (·.store table) := rfl
  have htarget : (handles.store through table).target handle = handles.target handle := rfl
  rw [registry, registry, hregistries, htarget, List.getElem?_modify]
  rcases handles.registries[handles.target handle]? with _ | found
  · rfl
  · by_cases heq : handles.target through = handles.target handle <;> simp [heq, slot?_store, h]

theorem fresh?_eq_of_slot?_eq {registry other : Registry} {kind : TableKind}
    (h : registry.slot? kind = other.slot? kind) (since : Nat) :
    registry.fresh? kind since = other.fresh? kind since := by
  ext table
  rw [fresh?_eq_some_iff, fresh?_eq_some_iff, h]

/-- **A shared registry refines its history**: what a handle sees after any history is what was
stored for its family, and nothing else. -/
theorem refines_after {history : List Operation} (h : Issued history) :
    (after history).Refines history := by
  have htracks := tracks_after h
  exact {
    count_eq := htracks.count_eq
    sequence_eq := fun handle hhandle => by
      rw [htracks.registry_eq_ofOperations hhandle, sequence_ofOperations]
      rfl
    get?_iff := fun handle hhandle kind table => by
      rw [get?_eq, Option.map_eq_some_iff]
      constructor
      · rintro ⟨slot, hslot, rfl⟩
        obtain ⟨hkind, before, hstands, -⟩ := (htracks.slot?_eq_some_iff hhandle).1 hslot
        exact ⟨hkind, before, hstands⟩
      · rintro ⟨hkind, before, hstands⟩
        exact ⟨⟨table, _⟩, (htracks.slot?_eq_some_iff hhandle).2 ⟨hkind, before, hstands, rfl⟩, rfl⟩
    fresh?_iff := fun handle hhandle kind since table => by
      rw [fresh?_eq_some_iff]
      constructor
      · rintro ⟨slot, hslot, hsince, rfl⟩
        obtain ⟨hkind, before, hstands, hsequence⟩ := (htracks.slot?_eq_some_iff hhandle).1 hslot
        exact ⟨hkind, before, hstands, by omega⟩
      · rintro ⟨hkind, before, hstands, hsince⟩
        exact ⟨⟨table, _⟩, (htracks.slot?_eq_some_iff hhandle).2 ⟨hkind, before, hstands, rfl⟩,
          Nat.lt_succ_of_le hsince, rfl⟩
    shared := fun one other hfamily => by
      rw [registry, registry, htracks.target_eq_of_sameFamily hfamily]
    seen := fun handle hhandle operation hreaches => by
      have hthrough : ∀ through ∈ operation.handle?, through < handleCount history := by
        obtain ⟨through, hsome, hfamily⟩ := hreaches
        intro found hfound
        cases hsome.symm.trans hfound
        rw [← htracks.count_eq]
        exact (htracks.lt_of_sameFamily hfamily).2 hhandle
      rw [← htracks.count_eq] at hthrough
      rw [htracks.registry_perform hthrough hhandle,
        if_pos ((htracks.reaches_iff hhandle hthrough).1 hreaches)]
    unseen := fun handle hhandle operation hthrough hreaches => by
      rw [htracks.registry_perform hthrough hhandle,
        if_neg (mt (htracks.reaches_iff hhandle hthrough).2 hreaches)]
    others := fun handle through table kind hkind => by
      have hslot := slot?_registry_store (after history) handle through hkind
      exact ⟨by rw [get?_eq, get?_eq, hslot], fresh?_eq_of_slot?_eq hslot⟩ }

end Handles

/-! ## A sample -/

namespace Sample

/-- The time of day at which a TDT was broadcast. -/
def tdtAt (hours : Nat) : Table :=
  .tdt {
    header := { tableId := 0x70, sectionSyntaxIndicator := false, sectionLength := 5 }
    mjd := 55097
    hours
    minutes := 0
    seconds := 0 }

/-- Two families store a TDT each, one of them is cleared, and then a section is rejected. -/
def history : List Operation :=
  [.copy 0, .store 1 (tdtAt 12), .new, .copy 2, .store 3 (tdtAt 13), .clear 0,
    .submit 2 .pat [0x70]]

theorem issued_history : Issued history := by
  show Issued ([] ++ [_] ++ [_] ++ [_] ++ [_] ++ [_] ++ [_] ++ [_])
  refine .concat (.concat (.concat (.concat (.concat (.concat (.concat .nil ?_) ?_) ?_) ?_) ?_)
    ?_) ?_
  all_goals decide

end Sample

open Sample in
theorem Handles.refines_after_families :
    Issued history ∧ (after history).Refines history :=
  ⟨issued_history, refines_after issued_history⟩

end DvbReceiver.Registry
