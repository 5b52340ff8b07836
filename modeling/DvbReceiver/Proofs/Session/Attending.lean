import DvbReceiver.Proofs.Session.Accounts

/-!
# Waiting for a goal

`s.Attends goal` is what is true of a session while it waits for a goal. It is about the entries
since the filter was programmed (`Watches`): no channel request among the signals taken was one to
follow, and whenever the arrival of a table was taken, the last such table stored was not one that
is waited for. The registry shows that last table and nothing before it
(`Watches.fresh?_eq`).

Deliveries do not end a wait (`Attends.append`), and neither does a signal that is passed over
(`Attends.took`).
-/

namespace DvbReceiver

open Journal

namespace Goal

/-- The kind of table that is waited for. -/
def kind? : Goal → Option TableKind
  | locked | request => none
  | pat => some .pat
  | pmt _ => some .pmt
  | tdt => some .tdt
  | tot _ _ => some .tot

/-- Whether the table is one that is waited for. -/
def accepts : Goal → Table → Bool
  | pat, .pat _ => true
  | pmt programNumber, .pmt found => found.programNumber = programNumber
  | tdt, .tdt found => found.utc?.isSome
  | tot _ _, .tot _ => true
  | _, _ => false

/-- The arrival of a table meets a goal if the table that the registry then shows is accepted. -/
theorem isSome_met?_tableArrived (goal : Goal) (registry : Registry) (mark : Nat)
    (kind : TableKind) :
    (goal.met? registry mark (.tableArrived kind)).isSome =
      (registry.fresh? kind mark).any goal.accepts := by
  cases goal <;> cases kind <;> simp only [met?, Registry.fresh?, Option.any_map] <;>
    generalize Registry.Slot.after? _ mark = found <;> cases found <;>
    simp [accepts, Option.filter_some, apply_ite]

variable {registry : Registry} {mark : Nat}

theorem met?_pat {pat : Pat} (h : registry.fresh? .pat mark = some (.pat pat)) :
    met? .pat registry mark (.tableArrived .pat) = some (.pat pat) := by
  simpa [met?, Registry.fresh?] using h

theorem met?_pmt {pmt : Pmt} (h : registry.fresh? .pmt mark = some (.pmt pmt)) :
    met? (.pmt pmt.programNumber) registry mark (.tableArrived .pmt) = some (.pmt pmt) := by
  simp [met?, Registry.after?_pmt_eq_some_iff.2 h]

theorem met?_tdt {tdt : Tdt} {utc : DateTime} (h : registry.fresh? .tdt mark = some (.tdt tdt))
    (hutc : tdt.utc? = some utc) :
    met? .tdt registry mark (.tableArrived .tdt) = some (.tdt utc) := by
  have hafter : Registry.Slot.after? registry.tdt mark = some tdt := by
    simpa [Registry.fresh?] using h
  simp [met?, hafter, hutc]

theorem met?_tot {tot : Tot} {utc : DateTime} {capturedAt : Int}
    (h : registry.fresh? .tot mark = some (.tot tot)) :
    met? (.tot utc capturedAt) registry mark (.tableArrived .tot) =
      some (.tot utc capturedAt tot) := by
  have hafter : Registry.Slot.after? registry.tot mark = some tot := by
    simpa [Registry.fresh?] using h
  simp [met?, hafter]

end Goal

/-- The last table of a kind that was stored. -/
def Journal.last? (kind : TableKind) (entries : List Entry) : Option Table :=
  ((tables entries).filter (·.kind = kind)).getLast?

theorem Journal.stored_of_last? {kind : TableKind} {entries : List Entry} {table : Table}
    (h : last? kind entries = some table) : .stored table ∈ entries :=
  mem_tables.1 (List.mem_of_mem_filter (List.mem_of_getLast? h))

/-- What was stored last is not hidden by tables of other kinds. -/
theorem Journal.last?_append_stored {kind : TableKind} {before after : List Entry} {table : Table}
    (hkind : table.kind = kind) (hafter : ∀ later ∈ tables after, later.kind ≠ kind) :
    last? kind (before ++ .stored table :: after) = some table := by
  have hnone : (tables after).filter (·.kind = kind) = [] := by
    simpa [List.filter_eq_nil_iff] using hafter
  rw [last?, List.append_cons, tables_append, tables_append, List.filter_append, hnone]
  simp [Entry.table?, hkind]

/-- The entry is neither a signal taken nor a call, and binds no streams. -/
structure Entry.Quiet (entry : Entry) : Prop where
  taken : entry.taken? = none
  calls : ∀ event, entry.event? = some event → event.isCall = false ∧ event.binds = false

namespace Session

variable {σ : Type} {s t : Session σ} {goal : Goal} {kind : TableKind} {entries : List Entry}
  {signal : Signal} {rest : List Signal}

/-- There are no calls among quiet entries. -/
theorem events_of_quiet (h : ∀ entry ∈ entries, entry.Quiet) :
    ∀ event ∈ Journal.events entries, event.isCall = false :=
  fun event hmem => ((h _ (mem_events.1 hmem)).calls event rfl).1

/-- A filter for tables of the kind is set, and nothing has met the goal since. -/
structure Watches (s : Session σ) (goal : Goal) (kind : TableKind) : Prop where
  /-- The filter for a PMT is on the PID of the selected service. -/
  programmed : ∃ before pid handle,
    s.journal = before ++ .event (.setFilter pid kind.tableId (.ok handle)) ::
      sinceFilter s.journal ∧
    s.mark = (tables before).length ∧ s.held.filter = some handle ∧
    ∀ programNumber, goal = .pmt programNumber → s.services[s.index]? = some { programNumber, pid }
  /-- No channel request has been followed. -/
  unfollowed : ∀ request, .took (.channelChange request) ∈ sinceFilter s.journal →
    ¬goal.Defers → Channel.next? s.index s.services.length request = none
  /-- No streams have been bound. -/
  unbound : ∀ event, .event event ∈ sinceFilter s.journal → event.binds = false
  /-- What the registry showed when an arrival was taken was not accepted. -/
  unaccepted : ∀ before after,
    sinceFilter s.journal = before ++ .took (.tableArrived kind) :: after →
    (last? kind before).any goal.accepts = false

/-- The services are those of a PAT that was stored. -/
def FromPat (s : Session σ) : Prop :=
  ∃ pat : Pat, .stored (.pat pat) ∈ s.journal ∧ s.services = pat.services.items

/-- The session waits for the goal, and it has not been met. -/
structure Attends (s : Session σ) (goal : Goal) : Prop where
  watches : ∀ kind, goal.kind? = some kind → s.Watches goal kind
  /-- Before the tuner is locked, the source is not asked for. -/
  unopened : goal = .locked → s.held.sourceOpen = false ∧ ∀ event ∈ s.events, event.isOpen = false
  services : ¬goal.Defers → s.FromPat

/-- `t` has the same aim as `s`. -/
structure SameAim (s t : Session σ) : Prop where
  mark : t.mark = s.mark
  held : t.held = s.held
  services : t.services = s.services
  index : t.index = s.index

theorem FromPat.of_adds {Q : Entry → Prop} (h : s.FromPat) (hadds : s.Adds Q t)
    (hservices : t.services = s.services) : t.FromPat := by
  obtain ⟨pat, hmem, heq⟩ := h
  obtain ⟨entries, hjournal, -⟩ := hadds
  exact ⟨pat, hjournal ▸ List.mem_append_left _ hmem, hservices.trans heq⟩

theorem Watches.fresh?_eq (hw : s.Watches goal kind) (hs : s.Accounted) (kind' : TableKind) :
    s.registry.fresh? kind' s.mark = last? kind' (sinceFilter s.journal) := by
  obtain ⟨before, pid, handle, hjournal, hmark, -⟩ := hw.programmed
  rw [hs.accounts.registry, hmark, hjournal, tables_append, Registry.fresh?_ofTables_append,
    ← hjournal]
  rfl

/-- A fresh table was stored after the filter was programmed. -/
theorem Watches.stored_of_fresh? {kind' : TableKind} {table : Table} (hw : s.Watches goal kind)
    (hs : s.Accounted) (h : s.registry.fresh? kind' s.mark = some table) :
    .stored table ∈ sinceFilter s.journal :=
  stored_of_last? ((hw.fresh?_eq hs kind').symm.trans h)

/-- Nothing but deliveries has come since the filter was programmed. -/
theorem Watches.of_calls {before heard : List Entry} {pid : Nat} {handle : FilterHandle}
    (hjournal : s.journal = before ++ .event (.setFilter pid kind.tableId (.ok handle)) :: heard)
    (hheard : Calls [] heard) (hmark : s.mark = (tables before).length)
    (hfilter : s.held.filter = some handle)
    (hpid : ∀ programNumber, goal = .pmt programNumber →
      s.services[s.index]? = some { programNumber, pid }) : s.Watches goal kind := by
  have hsince : sinceFilter s.journal = heard := by
    rw [hjournal, sinceFilter_programs rfl fun entry => hheard.programs_of_mem (by simp)]
  have htaken : ∀ signal, .took signal ∉ heard := by
    intro signal hmem
    rw [← mem_taken, hheard.taken_eq] at hmem
    cases hmem
  constructor
  · exact ⟨before, pid, handle, hsince.symm ▸ hjournal, hmark, hfilter, hpid⟩
  · intro request hmem
    exact absurd (hsince ▸ hmem) (htaken _)
  · intro event hmem
    rw [hsince] at hmem
    rcases hheard.cases_of_mem hmem with ⟨event, he, -⟩ | ⟨_, _, _, he⟩ | ⟨_, he⟩ <;> cases he
  · intro before after heq
    exact absurd (by rw [← hsince, heq]; simp) (htaken (.tableArrived kind))

/-- Entries that neither meet the goal nor lead elsewhere. -/
theorem Watches.extend (h : s.Watches goal kind) (haim : s.SameAim t)
    (hjournal : t.journal = s.journal ++ entries)
    (hevents : ∀ entry ∈ entries, ∀ event, entry.event? = some event →
      event.isCall = false ∧ event.binds = false)
    (hunfollowed : ∀ request, .took (.channelChange request) ∈ entries → ¬goal.Defers →
      Channel.next? s.index s.services.length request = none)
    (hunaccepted : ∀ before after, entries = before ++ .took (.tableArrived kind) :: after →
      (last? kind (sinceFilter s.journal ++ before)).any goal.accepts = false) :
    t.Watches goal kind := by
  have hsince : sinceFilter t.journal = sinceFilter s.journal ++ entries := by
    rw [hjournal, sinceFilter_append]
    intro entry hmem
    rcases entry with event | _ | _ | _ | _ | _ <;> try rfl
    have hcall := (hevents _ hmem event rfl).1
    cases event <;> first | rfl | cases hcall
  constructor
  · obtain ⟨before, pid, handle, heq, hmark, hfilter, hpid⟩ := h.programmed
    refine ⟨before, pid, handle, ?_, haim.mark.trans hmark, haim.held ▸ hfilter, ?_⟩
    · rw [hsince, hjournal, ← List.cons_append, ← List.append_assoc, ← heq]
    · rw [haim.services, haim.index]
      exact hpid
  · intro request hmem
    rw [haim.services, haim.index]
    rw [hsince, List.mem_append] at hmem
    exact hmem.elim (h.unfollowed request) (hunfollowed request)
  · intro event hmem
    rw [hsince, List.mem_append] at hmem
    exact hmem.elim (h.unbound event) fun hmem => (hevents _ hmem event rfl).2
  · intro before after heq
    rw [hsince] at heq
    rcases split_cases heq with ⟨more, hmore, -⟩ | ⟨more, rfl, hmore⟩
    · exact h.unaccepted before more hmore
    · exact hunaccepted more after hmore

theorem Attends.extend (h : s.Attends goal) (haim : s.SameAim t)
    (hjournal : t.journal = s.journal ++ entries)
    (hevents : ∀ entry ∈ entries, ∀ event, entry.event? = some event →
      event.isCall = false ∧ event.binds = false)
    (hunfollowed : ∀ request, .took (.channelChange request) ∈ entries → ¬goal.Defers →
      Channel.next? s.index s.services.length request = none)
    (hunaccepted : ∀ kind, goal.kind? = some kind →
      ∀ before after, entries = before ++ .took (.tableArrived kind) :: after →
        (last? kind (sinceFilter s.journal ++ before)).any goal.accepts = false) :
    t.Attends goal where
  watches kind hkind :=
    (h.watches kind hkind).extend haim hjournal hevents hunfollowed (hunaccepted kind hkind)
  unopened hgoal := by
    obtain ⟨hclosed, hopen⟩ := h.unopened hgoal
    refine ⟨haim.held ▸ hclosed, ?_⟩
    intro event hmem
    rw [Session.events, hjournal, List.filterMap_append, List.mem_append] at hmem
    refine hmem.elim (hopen event) fun hmem => ?_
    exact Event.isOpen_of_isCall (hevents _ (mem_events.1 hmem) event rfl).1
  services hgoal :=
    (h.services hgoal).of_adds (Q := fun _ => True) ⟨entries, hjournal, fun _ _ => trivial⟩
      haim.services

theorem Attends.append (h : s.Attends goal) (haim : s.SameAim t)
    (hjournal : t.journal = s.journal ++ entries) (hquiet : ∀ entry ∈ entries, entry.Quiet) :
    t.Attends goal := by
  refine h.extend haim hjournal (fun entry hmem => (hquiet entry hmem).calls)
    (fun request hmem => ?_) (fun kind _ before after heq => ?_)
  · cases (hquiet _ hmem).taken
  · have hmem : .took (.tableArrived kind) ∈ entries := by simp [heq]
    cases (hquiet _ hmem).taken

/-- A signal that does not meet the goal, and is no channel request to follow, is passed over. -/
theorem Attends.took (h : s.Attends goal) (hs : s.Accounted) (haim : s.SameAim t)
    (hjournal : t.journal = s.journal ++ [.took signal])
    (hmet : goal.met? s.registry s.mark signal = none)
    (hrequest : ∀ request, signal = .channelChange request → ¬goal.Defers →
      Channel.next? s.index s.services.length request = none) :
    t.Attends goal := by
  refine h.extend haim hjournal ?_ ?_ ?_
  · intro entry hmem event he
    rw [List.mem_singleton.1 hmem] at he
    cases he
  · intro request hmem
    rw [List.mem_singleton, Entry.took.injEq] at hmem
    exact hrequest request hmem.symm
  · intro kind hkind before after heq
    rcases before with _ | ⟨entry, before⟩
    · rw [List.nil_append, List.cons.injEq, Entry.took.injEq] at heq
      rw [heq.1] at hmet
      have hnone := goal.isSome_met?_tableArrived s.registry s.mark kind
      rw [hmet, (h.watches kind hkind).fresh?_eq hs kind] at hnone
      rw [List.append_nil, ← hnone]
      rfl
    · simp at heq

end Session

end DvbReceiver
