import DvbReceiver.Proofs.Registry.Stores
import DvbReceiver.Proofs.Session.Ledger

/-!
# The journal accounts for the state

`Accounts journal queue registry held` says that a journal tells all about a running session: its
queue holds the signals that were queued and not taken, in order; its registry is what the stores
make of an empty one; every table that was stored is announced in the queue or was announced
since; and its calls are orderly. Nothing that a session does breaks this.

`Leads devices s P t` says that `s` goes on to `t` by entries that neither take a signal nor bind
streams (`Entry.Routine`), and that `t` is running and has `P`, or is the end of a running session.
-/

namespace DvbReceiver

open Journal

/-- What the journal tells about the other parts of a running session. -/
structure Accounts (journal : List Entry) (queue : List Signal) (registry : Registry)
    (held : Holdings) : Prop where
  queued : queued journal = taken journal ++ queue
  registry : registry = .ofTables (tables journal)
  decoded : ∀ table ∈ tables journal, ∃ bytes, Table.ofSection? bytes = some (.ok table)
  announced : ∀ before table after, journal = before ++ .stored table :: after →
    .took (.tableArrived table.kind) ∈ after ∨ .tableArrived table.kind ∈ queue
  orderly : Orderly (events journal) held

namespace Accounts

variable {journal entries : List Entry} {queue : List Signal} {registry : Registry}
  {held held' : Holdings} {calls : List Event} {signal : Signal}

theorem hear (h : Accounts journal queue registry held) (hcalls : Calls calls entries)
    (horderly : Orderly (events journal ++ calls) held') :
    Accounts (journal ++ entries) (queue ++ Journal.queued entries)
      ((tables entries).foldl Registry.store registry) held' where
  queued := by rw [queued_append, taken_append, hcalls.taken_eq, h.queued]; simp
  registry := by rw [tables_append, Registry.ofTables_append, h.registry]
  decoded := by
    intro table hmem
    rw [tables_append, List.mem_append] at hmem
    rcases hmem with hmem | hmem
    · exact h.decoded table hmem
    · rcases hcalls.cases_of_mem (mem_tables.1 hmem) with ⟨_, _, he⟩ | ⟨bytes, _, hb, he⟩ | ⟨_, he⟩
      · cases he
      · cases he
        exact ⟨bytes, hb⟩
      · cases he
  announced := by
    intro before table after heq
    rcases split_cases heq with ⟨more, hmore, rfl⟩ | ⟨more, -, hmore⟩
    · exact (h.announced before table more hmore).imp (List.mem_append_left _)
        (List.mem_append_left _)
    -- the store is among the new entries
    · refine Or.inr (List.mem_append_right _ (hcalls.mem_queued_of_mem_tables ?_))
      rw [mem_tables, hmore]
      simp
  orderly := by rw [events_append, hcalls.events_eq]; exact horderly

/-- A signal may be taken, and an inner step or a call noted. -/
theorem concat {entry : Entry} (h : Accounts journal (entry.taken?.toList ++ queue) registry held)
    (htable : entry.table? = none) (hqueued : entry.queued? = none)
    (horderly : Orderly (events journal ++ entry.event?.toList) held') :
    Accounts (journal ++ [entry]) queue registry held' where
  queued := by simp [hqueued, h.queued]
  registry := by simp [htable, h.registry]
  decoded := by simpa [htable] using h.decoded
  announced := by
    intro before table after heq
    rcases List.eq_nil_or_concat' after with rfl | ⟨after, last, rfl⟩
    · obtain ⟨-, hlast⟩ := List.append_inj' heq rfl
      rw [List.singleton_inj.1 hlast] at htable
      cases htable
    · rw [← List.cons_append, ← List.append_assoc] at heq
      obtain ⟨rfl, hlast⟩ := List.append_inj' heq rfl
      obtain rfl := List.singleton_inj.1 hlast
      rcases h.announced before table after rfl with hmem | hmem
      · exact Or.inl (List.mem_append_left _ hmem)
      rcases List.mem_append.1 hmem with hmem | hmem
      · cases entry with
        | took signal =>
          obtain rfl : .tableArrived table.kind = signal := by simpa [Entry.taken?] using hmem
          exact Or.inl (by simp)
        | _ => cases hmem
      · exact Or.inr hmem
  orderly := by simpa using horderly

end Accounts

/-! ## Running sessions -/

/-- The event brings streams to the viewer. -/
def Event.binds : Event → Bool
  | createStream .. | channelBound _ => true
  | _ => false

/-- The entry neither takes a signal nor binds streams. -/
structure Entry.Routine (entry : Entry) : Prop where
  taken : entry.taken? = none
  binds : ∀ event, entry.event? = some event → event.binds = false

/-- What holds of the calls, of stores and of additions to the queue. -/
theorem Journal.Calls.forall_mem {Q : Entry → Prop} {events : List Event} {entries : List Entry}
    (h : Calls events entries) (hcalls : ∀ event ∈ events, Q (.event event))
    (hstored : ∀ table, Q (.stored table)) (hqueued : ∀ signal, Q (.queued signal)) :
    ∀ entry ∈ entries, Q entry := by
  intro entry hmem
  rcases h.cases_of_mem hmem with ⟨event, he, rfl⟩ | ⟨_, table, _, rfl⟩ | ⟨signal, rfl⟩
  · exact hcalls event he
  · exact hstored table
  · exact hqueued signal

theorem Journal.Calls.routine {events : List Event} {entries : List Entry}
    (h : Calls events entries) (hbinds : ∀ event ∈ events, event.binds = false) :
    ∀ entry ∈ entries, entry.Routine :=
  h.forall_mem (fun event he => ⟨rfl, by rintro _ ⟨⟩; exact hbinds event he⟩)
    (fun _ => ⟨rfl, by rintro _ ⟨⟩⟩) (fun _ => ⟨rfl, by rintro _ ⟨⟩⟩)

theorem Holdings.binds_of_mem_releases {held : Holdings} {event : Event}
    (h : event ∈ held.releases) : event.binds = false := by
  obtain ⟨_ | filter, _ | video, _ | audio, _ | _, _ | _⟩ := held <;>
    simp [releases, filterRelease, videoRelease, audioRelease, sourceRelease, tunerRelease] at h <;>
    aesop

theorem Holdings.binds_of_mem_filterRelease {held : Holdings} {event : Event}
    (h : event ∈ held.filterRelease) : event.binds = false :=
  binds_of_mem_releases (show event ∈ held.releases by simp [releases, h])

namespace Session

variable {σ : Type} (devices : Devices σ) {s t u : Session σ} {P : Session σ → Prop}
  {held : Holdings} {calls : List Event} {entries : List Entry}

/-- The session is running, and its journal accounts for it. -/
structure Accounted (s : Session σ) : Prop where
  live : s.outcome? = none
  accounts : Accounts s.journal s.queue s.registry s.held

/-- The journal of `t` is that of `s` and further entries with `Q`. -/
def Adds (s : Session σ) (Q : Entry → Prop) (t : Session σ) : Prop :=
  ∃ entries, t.journal = s.journal ++ entries ∧ ∀ entry ∈ entries, Q entry

theorem Adds.of_eq {Q : Entry → Prop} (h : t.journal = s.journal) : s.Adds Q t :=
  ⟨[], by rw [h, List.append_nil], fun _ h => by cases h⟩

theorem Adds.trans {Q : Entry → Prop} (h : s.Adds Q t) (h' : t.Adds Q u) : s.Adds Q u := by
  obtain ⟨entries, heq, hmem⟩ := h
  obtain ⟨entries', heq', hmem'⟩ := h'
  refine ⟨entries ++ entries', by rw [heq', heq, List.append_assoc], fun entry h => ?_⟩
  exact (List.mem_append.1 h).elim (hmem entry) (hmem' entry)

theorem Adds.imp {Q R : Entry → Prop} (h : s.Adds Q t) (hqr : ∀ entry, Q entry → R entry) :
    s.Adds R t := by
  obtain ⟨entries, heq, hmem⟩ := h
  exact ⟨entries, heq, fun entry h => hqr entry (hmem entry h)⟩

theorem Makes.adds (h : s.Makes calls held t) (hbinds : ∀ event ∈ calls, event.binds = false) :
    s.Adds Entry.Routine t := by
  obtain ⟨hardware, entries, hcalls, rfl⟩ := h
  exact ⟨entries, rfl, hcalls.routine hbinds⟩

theorem adds_enter (s : Session σ) (phase : Phase) : s.Adds Entry.Routine (s.enter phase) :=
  ⟨[.entered phase], rfl, by
    intro entry hmem
    rw [List.mem_singleton.1 hmem]
    exact ⟨rfl, by rintro _ ⟨⟩⟩⟩

theorem adds_finish (hlive : s.outcome? = none) (outcome : Outcome) :
    s.Adds Entry.Routine (s.finish devices outcome) := by
  obtain ⟨hardware, entries, hcalls, heq⟩ := exists_finish devices hlive outcome
  refine ⟨.ended outcome :: entries ++ [.entered .tornDown], by rw [heq]; simp, ?_⟩
  intro entry hmem
  rw [List.mem_append, List.mem_cons, List.mem_singleton] at hmem
  rcases hmem with (rfl | hmem) | rfl
  · exact ⟨rfl, by rintro _ ⟨⟩⟩
  · exact hcalls.routine (fun _ => Holdings.binds_of_mem_releases) entry hmem
  · exact ⟨rfl, by rintro _ ⟨⟩⟩

namespace Accounted

theorem enter (h : s.Accounted) (phase : Phase) : (s.enter phase).Accounted where
  live := h.live
  accounts := h.accounts.concat rfl rfl ((List.append_nil _).symm ▸ h.accounts.orderly)

/-- A notification changes nothing that the journal accounts for. -/
theorem notify (h : s.Accounted) {event : Event} (hcall : event.isCall = false) :
    (s.record (.event event)).Accounted where
  live := h.live
  accounts := h.accounts.concat rfl rfl (h.accounts.orderly.concat (.other hcall))

theorem accounts_of_makes {held : Holdings} (h : s.Accounted) (hmakes : s.Makes calls held t)
    (horderly : Orderly (s.events ++ calls) held') :
    Accounts t.journal t.queue t.registry held' := by
  obtain ⟨hardware, entries, hcalls, rfl⟩ := hmakes
  exact h.accounts.hear hcalls horderly

theorem makes (h : s.Accounted) (hmakes : s.Makes calls held t)
    (horderly : Orderly (s.events ++ calls) held) : t.Accounted where
  live := hmakes.outcome?_eq.trans h.live
  accounts := hmakes.held_eq ▸ h.accounts_of_makes hmakes horderly

end Accounted

/-! ## Where a session is led -/

/-- `s` goes on to `t` by routine entries, and `t` is running and has `P`, or is the end of a
running session. -/
inductive Leads (s : Session σ) (P : Session σ → Prop) : Session σ → Prop
  | goes {t : Session σ} (hadds : s.Adds Entry.Routine t) (ht : t.Accounted) (hp : P t) :
    Leads s P t
  | ends {t : Session σ} (hadds : s.Adds Entry.Routine t) (ht : t.Accounted) (outcome : Outcome) :
    Leads s P (t.finish devices outcome)

theorem Leads.of_adds (hadds : s.Adds Entry.Routine t) (h : Leads devices t P u) :
    Leads devices s P u := by
  cases h with
  | goes hadds' hu hp => exact .goes (hadds.trans hadds') hu hp
  | ends hadds' hv outcome => exact .ends (hadds.trans hadds') hv outcome

theorem Leads.adds (h : Leads devices s P t) : s.Adds Entry.Routine t := by
  cases h with
  | goes hadds _ _ => exact hadds
  | ends hadds ht outcome => exact hadds.trans (adds_finish devices ht.live outcome)

end Session

end DvbReceiver
