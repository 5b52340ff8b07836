import DvbReceiver.Session.State
import Mathlib.Data.List.DropRight

/-!
# Reading a journal

What a session's journal says about stores, about the queue and about the present filter:

* `Journal.tables`, `Journal.queued` and `Journal.taken` pick the tables that were stored, and
  the signals that joined and left the queue;
* `Journal.sinceFilter` is the part behind the last programming of a filter;
* `Journal.Calls events entries` says that the entries note the calls `events`, each followed by
  whatever was delivered during it. A section that is stored is always announced
  (`Calls.mem_queued_of_mem_tables`), and calls take nothing from the queue.
-/

namespace DvbReceiver

namespace Entry

/-- The table that was stored. -/
def table? : Entry → Option Table
  | stored table => some table
  | _ => none

/-- The signal that joined the queue. -/
def queued? : Entry → Option Signal
  | queued signal => some signal
  | _ => none

/-- The signal that was taken from the queue. -/
def taken? : Entry → Option Signal
  | took signal => some signal
  | _ => none

/-- The demultiplexer was asked for a filter. -/
def programs : Entry → Bool
  | event (.setFilter ..) => true
  | _ => false

end Entry

namespace Journal

def events (journal : List Entry) : List Event := journal.filterMap Entry.event?

def tables (journal : List Entry) : List Table := journal.filterMap Entry.table?

def queued (journal : List Entry) : List Signal := journal.filterMap Entry.queued?

def taken (journal : List Entry) : List Signal := journal.filterMap Entry.taken?

/-- The entries since a filter was last programmed. -/
def sinceFilter (journal : List Entry) : List Entry := journal.rtakeWhile (!·.programs)

variable {journal entries : List Entry}

@[simp] theorem events_append (journal entries : List Entry) :
    events (journal ++ entries) = events journal ++ events entries := List.filterMap_append

@[simp] theorem tables_append (journal entries : List Entry) :
    tables (journal ++ entries) = tables journal ++ tables entries := List.filterMap_append

@[simp] theorem queued_append (journal entries : List Entry) :
    queued (journal ++ entries) = queued journal ++ queued entries := List.filterMap_append

@[simp] theorem taken_append (journal entries : List Entry) :
    taken (journal ++ entries) = taken journal ++ taken entries := List.filterMap_append

@[simp] theorem events_singleton (entry : Entry) : events [entry] = entry.event?.toList := by
  cases entry <;> rfl

@[simp] theorem tables_singleton (entry : Entry) : tables [entry] = entry.table?.toList := by
  cases entry <;> rfl

@[simp] theorem queued_singleton (entry : Entry) : queued [entry] = entry.queued?.toList := by
  cases entry <;> rfl

@[simp] theorem taken_singleton (entry : Entry) : taken [entry] = entry.taken?.toList := by
  cases entry <;> rfl

theorem mem_events {event : Event} : event ∈ events journal ↔ .event event ∈ journal := by
  refine List.mem_filterMap.trans ⟨?_, fun h => ⟨_, h, rfl⟩⟩
  rintro ⟨entry, hmem, hentry⟩
  cases entry <;> cases hentry
  exact hmem

theorem mem_tables {table : Table} : table ∈ tables journal ↔ .stored table ∈ journal := by
  refine List.mem_filterMap.trans ⟨?_, fun h => ⟨_, h, rfl⟩⟩
  rintro ⟨entry, hmem, hentry⟩
  cases entry <;> cases hentry
  exact hmem

theorem mem_taken {signal : Signal} : signal ∈ taken journal ↔ .took signal ∈ journal := by
  refine List.mem_filterMap.trans ⟨?_, fun h => ⟨_, h, rfl⟩⟩
  rintro ⟨entry, hmem, hentry⟩
  cases entry <;> cases hentry
  exact hmem

/-- An element of two lists put together is an element of the first or of the second. -/
theorem split_cases {α : Type} {l₁ l₂ m₁ m₂ : List α} {a : α} (h : m₁ ++ m₂ = l₁ ++ a :: l₂) :
    (∃ more, m₁ = l₁ ++ a :: more ∧ l₂ = more ++ m₂) ∨
      ∃ more, l₁ = m₁ ++ more ∧ m₂ = more ++ a :: l₂ := by
  rcases List.append_eq_append_iff.1 h with ⟨more, h₁, h₂⟩ | ⟨more, h₁, h₂⟩
  · exact Or.inr ⟨more, h₁, h₂⟩
  · rcases more with _ | ⟨b, more⟩
    · exact Or.inr ⟨[], by simpa using h₁.symm, h₂.symm⟩
    · rw [List.cons_append, List.cons.injEq] at h₂
      exact Or.inl ⟨more, h₂.1 ▸ h₁, h₂.2⟩

/-- An element of two lists put together that is not in the second is in the first. -/
theorem split_of_not_mem {α : Type} {l₁ l₂ m₁ m₂ : List α} {a : α}
    (h : m₁ ++ m₂ = l₁ ++ a :: l₂) (hnot : a ∉ m₂) : ∃ more, m₁ = l₁ ++ a :: more := by
  rcases split_cases h with ⟨more, hmore, -⟩ | ⟨more, -, rfl⟩
  · exact ⟨more, hmore⟩
  · exact absurd (by simp) hnot

/-- An element that is not among the first ones is the last one. -/
theorem split_last {α : Type} {l₁ l₂ m : List α} {a last : α} (h : m ++ [last] = l₁ ++ a :: l₂)
    (hnot : a ∉ m) : l₁ = m ∧ a = last ∧ l₂ = [] := by
  rcases split_cases h with ⟨more, rfl, -⟩ | ⟨more, hmore, heq⟩
  · exact absurd (by simp) hnot
  · rcases more with _ | ⟨b, more⟩
    · rw [List.nil_append, List.cons.injEq] at heq
      exact ⟨by simpa using hmore, heq.1.symm, heq.2.symm⟩
    · simp at heq

/-! ## The part since the last filter -/

theorem sinceFilter_append (h : ∀ entry ∈ entries, entry.programs = false) :
    sinceFilter (journal ++ entries) = sinceFilter journal ++ entries := by
  induction entries using List.reverseRecOn with
  | nil => simp
  | append_singleton entries entry ih =>
    simp only [List.mem_append, List.mem_singleton] at h
    rw [sinceFilter, ← List.append_assoc, List.rtakeWhile_concat_pos]
    · rw [← sinceFilter, ih fun e he => h e (Or.inl he), List.append_assoc]
    · simp [h entry (Or.inr rfl)]

theorem sinceFilter_programs {entry : Entry} (hentry : entry.programs = true)
    (h : ∀ entry ∈ entries, entry.programs = false) :
    sinceFilter (journal ++ entry :: entries) = entries := by
  rw [List.append_cons, sinceFilter_append h, sinceFilter,
    List.rtakeWhile_concat_neg _ _ _ (by simp [hentry]), List.nil_append]

theorem programs_of_mem_sinceFilter {entry : Entry} (h : entry ∈ sinceFilter journal) :
    entry.programs = false := by
  simpa using List.mem_rtakeWhile_imp h

theorem mem_of_mem_sinceFilter {entry : Entry} (h : entry ∈ sinceFilter journal) :
    entry ∈ journal :=
  (List.rtakeWhile_suffix _ _).subset h

/-! ## Calls -/

/-- The entries note the calls, with what was delivered during them. -/
inductive Calls : List Event → List Entry → Prop
  | nil : Calls [] []
  | call {events : List Event} {entries : List Entry} (event : Event) (h : Calls events entries) :
    Calls (event :: events) (.event event :: entries)
  /-- A section that could be decoded. -/
  | section {events : List Event} {entries : List Entry} (bytes : Bytes) (table : Table)
    (hbytes : Table.ofSection? bytes = some (.ok table)) (h : Calls events entries) :
    Calls events (.stored table :: .queued (.tableArrived table.kind) :: entries)
  /-- A lock status, or what the application wants. -/
  | signal {events : List Event} {entries : List Entry} (signal : Signal)
    (hsignal : ∀ kind, signal ≠ .tableArrived kind) (h : Calls events entries) :
    Calls events (.queued signal :: entries)

namespace Calls

variable {events events' : List Event} {entries' : List Entry}

theorem append (h : Calls events entries) (h' : Calls events' entries') :
    Calls (events ++ events') (entries ++ entries') := by
  induction h with
  | nil => exact h'
  | call event _ ih => exact ih.call event
  | «section» bytes table hbytes _ ih => exact ih.section bytes table hbytes
  | signal signal hsignal _ ih => exact ih.signal signal hsignal

theorem events_eq (h : Calls events entries) : Journal.events entries = events := by
  induction h with
  | nil => rfl
  | call event _ ih => exact congrArg (event :: ·) ih
  | «section» _ _ _ _ ih => exact ih
  | signal _ _ _ ih => exact ih

@[simp] theorem taken_eq (h : Calls events entries) : taken entries = [] := by
  induction h with
  | nil => rfl
  | call _ _ ih => exact ih
  | «section» _ _ _ _ ih => exact ih
  | signal _ _ _ ih => exact ih

/-- Every entry is a call, a store or an addition to the queue. -/
theorem cases_of_mem (h : Calls events entries) {entry : Entry} (hmem : entry ∈ entries) :
    (∃ event ∈ events, entry = .event event) ∨
      (∃ bytes table, Table.ofSection? bytes = some (.ok table) ∧ entry = .stored table) ∨
      ∃ signal, entry = .queued signal := by
  induction h with
  | nil => cases hmem
  | call event _ ih =>
    rcases List.mem_cons.1 hmem with rfl | hmem
    · exact Or.inl ⟨event, List.mem_cons_self, rfl⟩
    · exact (ih hmem).imp_left fun ⟨e, he, heq⟩ => ⟨e, List.mem_cons_of_mem _ he, heq⟩
  | «section» bytes table hbytes _ ih =>
    rcases List.mem_cons.1 hmem with rfl | hmem
    · exact Or.inr (Or.inl ⟨bytes, table, hbytes, rfl⟩)
    · rcases List.mem_cons.1 hmem with rfl | hmem
      · exact Or.inr (Or.inr ⟨_, rfl⟩)
      · exact ih hmem
  | signal signal _ _ ih =>
    rcases List.mem_cons.1 hmem with rfl | hmem
    · exact Or.inr (Or.inr ⟨_, rfl⟩)
    · exact ih hmem

/-- A table that is stored is announced. -/
theorem mem_queued_of_mem_tables (h : Calls events entries) {table : Table}
    (hmem : table ∈ tables entries) : .tableArrived table.kind ∈ queued entries := by
  induction h with
  | nil => cases hmem
  | call _ _ ih => exact ih hmem
  | «section» _ stored _ _ ih =>
    rcases List.mem_cons.1 hmem with rfl | hmem
    · exact List.mem_cons_self
    · exact List.mem_cons_of_mem _ (ih hmem)
  | signal _ _ _ ih => exact List.mem_cons_of_mem _ (ih hmem)

theorem programs_of_mem (h : Calls events entries)
    (hevents : ∀ event ∈ events, (Entry.event event).programs = false) {entry : Entry}
    (hmem : entry ∈ entries) : entry.programs = false := by
  rcases h.cases_of_mem hmem with ⟨event, he, rfl⟩ | ⟨_, _, _, rfl⟩ | ⟨_, rfl⟩
  · exact hevents event he
  · rfl
  · rfl

end Calls

end Journal

end DvbReceiver
