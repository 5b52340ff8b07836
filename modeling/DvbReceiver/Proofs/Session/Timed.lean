import DvbReceiver.Proofs.Session.Turns

/-!
# Where a session stands with the local time

`Timed` says how the journal, the goal and the phase of a session go with `timeIsResolved`. As long
as the local time is not resolved, none has been delivered; a session that waits for the TOT has the
UTC time from the filter before (`Dated`); and once it is resolved, only PMTs are looked for. Every
turn keeps this (`timed_of_turn`), so it is true of every session that can be reached
(`timed_of_reachable`).
-/

namespace DvbReceiver

open Journal

/-- The local times that were delivered. -/
def Journal.times (journal : List Entry) : List ResolvedTime := journal.filterMap Entry.time?

theorem Journal.times_append (journal entries : List Entry) :
    times (journal ++ entries) = times journal ++ times entries := List.filterMap_append

theorem Journal.mem_times {journal : List Entry} {time : ResolvedTime} :
    time ∈ times journal ↔ .event (.timeResolved time) ∈ journal := by
  refine List.mem_filterMap.trans ⟨?_, fun h => ⟨_, h, rfl⟩⟩
  rintro ⟨entry, hmem, hentry⟩
  unfold Entry.time? at hentry
  split at hentry
  · cases hentry
    exact hmem
  · cases hentry

theorem Journal.not_mem_of_times_eq_nil {journal : List Entry} (h : times journal = [])
    {time : ResolvedTime} : .event (.timeResolved time) ∉ journal := by
  rw [← mem_times, h]
  exact List.not_mem_nil

theorem Journal.times_eq_nil {entries : List Entry} (h : ∀ entry ∈ entries, entry.time? = none) :
    times entries = [] :=
  List.filterMap_eq_nil_iff.2 h

/-- If the entry programs a filter, it is one for the PMT of one of the services. -/
def Entry.SeeksService (services : List Pat.Service) (entry : Entry) : Prop :=
  ∀ pid tableId result, entry = .event (.setFilter pid tableId result) →
    tableId = TableKind.pmt.tableId ∧ ∃ service ∈ services, service.pid = pid

theorem Entry.seeksService_of_programs {services : List Pat.Service} {entry : Entry}
    (h : entry.programs = false) : entry.SeeksService services := by
  rintro pid tableId result rfl
  cases h

theorem Entry.Toward.time {goal : Goal} {pid : Nat} {entry : Entry} (h : entry.Toward goal pid) :
    entry.time? = none := by
  rcases h with h | ⟨kind, result, -, rfl⟩
  · exact h.time
  · rfl

namespace Session

variable {σ : Type} (devices : Devices σ) {s t : Session σ} {entries : List Entry} {goal : Goal}

/-! ## What the journal says of the time -/

/-- The local time was delivered if and only if it is resolved, and then once. After that, only PMTs
are looked for. -/
structure TimedJournal (s : Session σ) : Prop where
  once : (times s.journal).length = s.timeIsResolved.toNat
  later : ∀ before time after, s.journal = before ++ .event (.timeResolved time) :: after →
    ∀ entry ∈ after, entry.SeeksService s.services

theorem TimedJournal.times_eq_nil (h : s.TimedJournal) (hflag : s.timeIsResolved = false) :
    times s.journal = [] := by
  have honce := h.once
  rw [hflag] at honce
  exact List.eq_nil_of_length_eq_zero honce

/-- While the time is not resolved, nothing has to be said of what comes later. -/
theorem TimedJournal.of_unresolved (hflag : s.timeIsResolved = false) (h : times s.journal = []) :
    s.TimedJournal := by
  refine ⟨by rw [h, hflag]; rfl, fun before time after heq => ?_⟩
  have hmem : time ∈ times s.journal := mem_times.2 (by simp [heq])
  rw [h] at hmem
  cases hmem

theorem TimedJournal.append (h : s.TimedJournal) (entries : List Entry)
    (hservices : t.services = s.services)
    (hflag : t.timeIsResolved = s.timeIsResolved) (hjournal : t.journal = s.journal ++ entries)
    (htimes : ∀ entry ∈ entries, entry.time? = none)
    (hseeks : s.timeIsResolved = true → ∀ entry ∈ entries, entry.SeeksService s.services) :
    t.TimedJournal := by
  have hsame : times t.journal = times s.journal := by
    rw [hjournal, times_append, Journal.times_eq_nil htimes, List.append_nil]
  cases hresolved : s.timeIsResolved with
  | false => exact .of_unresolved (hflag.trans hresolved) (hsame.trans (h.times_eq_nil hresolved))
  | true =>
    refine ⟨by rw [hsame, h.once, hflag], fun before time after heq => ?_⟩
    rw [hservices]
    rw [hjournal] at heq
    rcases split_cases heq with ⟨more, hmore, rfl⟩ | ⟨more, -, hmore⟩
    · exact List.forall_mem_append.2 ⟨h.later before time more hmore, hseeks hresolved⟩
    · have hnone := htimes (.event (.timeResolved time)) (by simp [hmore])
      cases hnone

/-! ## What is true while a goal is waited for -/

/-- The present filter is one for tables of the kind on the PID of the time tables. -/
def SeeksTime (s : Session σ) (kind : TableKind) : Prop :=
  ∃ before handle, s.journal = before ++
    .event (.setFilter timePid kind.tableId (.ok handle)) :: sinceFilter s.journal

/-- The filter before the present one was for the TDT and brought one with this UTC time, the
present one is for the TOT, and no channel request has been followed since the former. -/
def Dated (s : Session σ) (utc : DateTime) : Prop :=
  ∃ before first between second tdt,
    s.journal = before ++
      .event (.setFilter timePid TableKind.tdt.tableId (.ok first)) :: between ++
      .event (.setFilter timePid TableKind.tot.tableId (.ok second)) :: sinceFilter s.journal ∧
    (∀ entry ∈ between, entry.programs = false) ∧
    (∀ request, .took (.channelChange request) ∈ between →
      Channel.next? s.index s.services.length request = none) ∧
    .stored (.tdt tdt) ∈ between ∧ tdt.utc? = some utc

/-- What a session that waits for the goal has done about the local time. -/
def Timely (s : Session σ) : Goal → Prop
  | .locked | .pat => s.timeIsResolved = false
  | .pmt _ => True
  | .tdt => s.timeIsResolved = false ∧ s.SeeksTime .tdt
  | .tot utc _ => s.timeIsResolved = false ∧ s.Dated utc
  | .request => s.timeIsResolved = true

/-- Entries that program no filter change nothing about that. -/
theorem Timely.append (h : s.Timely goal) (hservices : t.services = s.services)
    (hindex : t.index = s.index) (hflag : t.timeIsResolved = s.timeIsResolved)
    (hjournal : t.journal = s.journal ++ entries)
    (hentries : ∀ entry ∈ entries, entry.programs = false) : t.Timely goal := by
  have hsince : sinceFilter t.journal = sinceFilter s.journal ++ entries := by
    rw [hjournal, sinceFilter_append hentries]
  cases goal with
  | locked => exact hflag.trans h
  | pat => exact hflag.trans h
  | pmt => trivial
  | request => exact hflag.trans h
  | tdt =>
    obtain ⟨hunresolved, before, handle, heq⟩ := h
    refine ⟨hflag.trans hunresolved, before, handle, ?_⟩
    rw [hsince, hjournal, ← List.cons_append, ← List.append_assoc, ← heq]
  | tot utc capturedAt =>
    obtain ⟨hunresolved, before, first, between, second, tdt, heq, hbetween, hrequest, htdt⟩ := h
    refine ⟨hflag.trans hunresolved, before, first, between, second, tdt, ?_, hbetween, ?_, htdt⟩
    · rw [hsince, hjournal, ← List.cons_append, ← List.append_assoc, ← heq]
    · rw [hservices, hindex]
      exact hrequest

/-- Where a session stands with the local time, at every moment between its steps. -/
structure Timed (s : Session σ) : Prop where
  journal : s.TimedJournal
  starting : s.progress = .starting → s.timeIsResolved = false
  waiting : ∀ goal since, s.progress = .waiting goal since →
    s.Timely goal ∧ (s.phase = .streamsBound → goal = .request)

theorem Timed.append (h : s.Timed) (entries : List Entry) (hservices : t.services = s.services)
    (hindex : t.index = s.index) (hflag : t.timeIsResolved = s.timeIsResolved)
    (hphase : t.phase = s.phase) (hprogress : t.progress = s.progress)
    (hjournal : t.journal = s.journal ++ entries)
    (hentries : ∀ entry ∈ entries, entry.programs = false ∧ entry.time? = none) : t.Timed where
  journal := h.journal.append entries hservices hflag hjournal
    (fun entry hmem => (hentries entry hmem).2)
    fun _ entry hmem => Entry.seeksService_of_programs (hentries entry hmem).1
  starting hstart := hflag.trans (h.starting (hprogress ▸ hstart))
  waiting goal since hwaiting := by
    obtain ⟨htimely, hbound⟩ := h.waiting goal since (hprogress ▸ hwaiting)
    rw [hphase]
    exact ⟨htimely.append hservices hindex hflag hjournal fun entry hmem => (hentries entry hmem).1,
      hbound⟩

/-- At its end a session keeps what its journal says. -/
theorem timed_finish (h : s.TimedJournal) (hlive : s.outcome? = none) (outcome : Outcome) :
    (s.finish devices outcome).Timed := by
  obtain ⟨hcourse, entries, hjournal, hentries⟩ := course_finish devices hlive outcome
  refine ⟨h.append entries hcourse.services hcourse.timeIsResolved hjournal
    (fun entry hmem => (hentries entry hmem).time)
    fun _ entry hmem => Entry.seeksService_of_programs (hentries entry hmem).programs, ?_, ?_⟩
  · rintro ⟨⟩
  · rintro _ _ ⟨⟩

theorem GoesFor.timed {phase : Phase} {pid : Nat} (hgoes : s.GoesFor goal phase pid t)
    (h : s.TimedJournal)
    (hpid : s.timeIsResolved = true → ∀ kind, goal.kind? = some kind →
      kind = .pmt ∧ ∃ service ∈ s.services, service.pid = pid)
    (htimely : t.outcome? = none → t.Timely goal)
    (hphase : phase = .streamsBound → goal = .request) : t.Timed := by
  obtain ⟨entries, hjournal, hentries⟩ := hgoes.adds
  have htimed : t.TimedJournal := by
    refine h.append entries hgoes.course.services hgoes.course.timeIsResolved hjournal
      (fun entry hmem => (hentries entry hmem).time) fun hresolved entry hmem => ?_
    rcases hentries entry hmem with haside | ⟨kind, result, hkind, rfl⟩
    · exact Entry.seeksService_of_programs haside.programs
    · obtain ⟨rfl, hservice⟩ := hpid hresolved kind hkind
      rintro _ _ _ ⟨⟩
      exact ⟨rfl, hservice⟩
  rcases hgoes.progress with ⟨since, hprogress, hsame⟩ | ⟨error, hprogress⟩
  · refine ⟨htimed, fun hstart => ?_, fun goal' since' hwaiting => ?_⟩
    · cases hprogress.symm.trans hstart
    · cases hprogress.symm.trans hwaiting
      exact ⟨htimely (live_of_waiting hprogress), fun hbound => hphase (hsame.symm.trans hbound)⟩
  · refine ⟨htimed, fun hstart => ?_, fun goal' since' hwaiting => ?_⟩
    · cases hprogress.symm.trans hstart
    · cases hprogress.symm.trans hwaiting

/-- Looking for the PMT of a service. -/
theorem timed_findPmt (h : s.TimedJournal) (hlive : s.outcome? = none) :
    (s.findPmt devices).Timed := by
  rcases hservice : s.services[s.index]? with _ | service
  · rw [findPmt, hservice]
    exact timed_finish devices h hlive _
  · refine (goesFor_findPmt devices hlive hservice).timed h (fun _ kind hkind => ?_)
      (fun _ => trivial) (by rintro ⟨⟩)
    exact ⟨(Option.some.inj hkind).symm, service, List.mem_of_getElem? hservice, rfl⟩

/-- Once a session that goes for a table waits for it, the filter for it is the present one. -/
theorem GoesFor.exists_filter {phase : Phase} {pid : Nat} {kind : TableKind}
    (hgoes : s.GoesFor goal phase pid t) (hkind : goal.kind? = some kind)
    (hlive : t.outcome? = none) :
    ∃ mid handle, t.journal =
        s.journal ++ mid ++ .event (.setFilter pid kind.tableId (.ok handle)) ::
          sinceFilter t.journal ∧
      ∀ entry ∈ mid, entry.Aside := by
  cases hgoes with
  | rests hnone => cases hnone.symm.trans hkind
  | fails _ _ hprogress =>
    rw [outcome?, hprogress] at hlive
    cases hlive
  | @seeks kind' handle mid heard _ hkind' _ hjournal hmid hheard =>
    obtain rfl := Option.some.inj (hkind'.symm.trans hkind)
    have hsince : sinceFilter t.journal = heard := by
      rw [hjournal, sinceFilter_programs rfl fun entry hmem => (hheard entry hmem).programs]
    exact ⟨mid, handle, by rw [hsince, hjournal], hmid⟩

/-- Behind the streams the session rests, or goes for the UTC time. -/
theorem GoesOn.timed (hgoes : s.GoesOn t) (h : s.TimedJournal) : t.Timed := by
  unfold GoesOn at hgoes
  split at hgoes
  · next hresolved =>
    exact hgoes.timed h (fun _ kind hkind => by cases hkind)
      (fun _ => hgoes.course.timeIsResolved.trans hresolved) (fun _ => rfl)
  · next hunresolved =>
    have hfalse : s.timeIsResolved = false := by simpa using hunresolved
    refine hgoes.timed h (fun hresolved => absurd hresolved hunresolved) (fun hlive => ?_)
      (by rintro ⟨⟩)
    obtain ⟨mid, handle, hjournal, -⟩ := hgoes.exists_filter rfl hlive
    exact ⟨hgoes.course.timeIsResolved.trans hfalse, _, handle, hjournal⟩

/-- Delivering the local time, which had not been resolved. -/
theorem Resolves.timed {time : ResolvedTime} (h : s.Resolves time t) (hs : times s.journal = []) :
    t.Timed := by
  obtain ⟨mid, hjournal, hmid⟩ := h.journal
  obtain ⟨since, hprogress⟩ := h.progress
  have hnone : times (s.journal ++ mid) = [] := by
    rw [times_append, hs, Journal.times_eq_nil fun entry hmem => (hmid entry hmem).time,
      List.append_nil]
  have honce : times t.journal = [time] := by
    rw [hjournal, times_append, hnone]
    rfl
  refine ⟨⟨by rw [honce, h.timeIsResolved]; rfl, fun before time' after heq => ?_⟩, ?_, ?_⟩
  · obtain ⟨-, -, rfl⟩ := split_last (hjournal.symm.trans heq) (not_mem_of_times_eq_nil hnone)
    exact List.forall_mem_nil _
  · intro hstart
    cases hprogress.symm.trans hstart
  · intro goal since' hwaiting
    cases hprogress.symm.trans hwaiting
    exact ⟨h.timeIsResolved, fun _ => rfl⟩

theorem TimedJournal.take (h : s.TimedJournal) (signal : Signal) (rest : List Signal) :
    (s.take signal rest).TimedJournal :=
  h.append [.took signal] rfl rfl rfl (List.forall_mem_singleton.2 rfl)
    fun _ => List.forall_mem_singleton.2 (Entry.seeksService_of_programs rfl)

/-- The TDT that is taken up has come since the filter for it was programmed. -/
theorem Timely.dated (h : s.Timely .tdt) (hs : s.Accounted) (hattends : s.Attends .tdt)
    {rest : List Signal} {tdt : Tdt} {utc : DateTime} {capturedAt : Int}
    (hfresh : s.registry.fresh? .tdt s.mark = some (.tdt tdt)) (hutc : tdt.utc? = some utc)
    (hgoes : (s.take (.tableArrived .tdt) rest).GoesFor (.tot utc capturedAt) .awaitingTot timePid
      t) (hlive : t.outcome? = none) : t.Dated utc := by
  obtain ⟨-, before, first, hjournal⟩ := h
  have hwatches := hattends.watches .tdt rfl
  have hstored := hwatches.stored_of_fresh? hs hfresh
  obtain ⟨mid, second, heq, hmid⟩ := hgoes.exists_filter rfl hlive
  refine ⟨before, first, sinceFilter s.journal ++ .took (.tableArrived .tdt) :: mid, second, tdt,
    ?_, ?_, ?_, List.mem_append_left _ hstored, hutc⟩
  · have htake : (s.take (.tableArrived .tdt) rest).journal =
      s.journal ++ [.took (.tableArrived .tdt)] := rfl
    rw [htake, hjournal] at heq
    exact heq.trans (by simp)
  · rw [List.forall_mem_append, List.forall_mem_cons]
    exact ⟨fun _ => programs_of_mem_sinceFilter, rfl, fun entry hmem => (hmid entry hmem).programs⟩
  · intro request hmem
    rw [hgoes.course.services, hgoes.course.index]
    rw [List.mem_append, List.mem_cons] at hmem
    rcases hmem with hmem | hmem | hmem
    · exact hwatches.unfollowed request hmem (by decide)
    · cases hmem
    · cases (hmid _ hmem).taken

/-! ## Every turn -/

theorem timed_of_turn (hs : s.Sound) (h : s.Timed) (hturn : Turn devices s t) : t.Timed := by
  cases hturn with
  | begins hprogress hgoes =>
    have hunresolved := h.starting hprogress
    refine hgoes.timed h.journal (fun _ kind hkind => by cases hkind)
      (fun _ => hgoes.course.timeIsResolved.trans hunresolved) (by rintro ⟨⟩)
  | expires hprogress => exact timed_finish devices h.journal (live_of_waiting hprogress) _
  | ends hprogress =>
    exact timed_finish devices (h.journal.take _ _) (live_of_waiting hprogress) _
  | opens hprogress _ hgoes =>
    have hunresolved : s.timeIsResolved = false := (h.waiting _ _ hprogress).1
    refine hgoes.timed (h.journal.take _ _) (fun hresolved => ?_)
      (fun _ => hgoes.course.timeIsResolved.trans hunresolved) (by rintro ⟨⟩)
    cases hresolved.symm.trans hunresolved
  | @adopts since rest pat hprogress =>
    have hunresolved : s.timeIsResolved = false := (h.waiting _ _ hprogress).1
    have htaken := h.journal.take (.tableArrived .pat) rest
    unfold adoptPat
    extract_lets count
    split
    · exact timed_finish devices htaken (live_of_waiting hprogress) _
    · refine timed_findPmt devices (.of_unresolved hunresolved (htaken.times_eq_nil hunresolved)) ?_
      exact live_of_waiting hprogress
  | binds _ _ hgoes => exact hgoes.timed (h.journal.take _ _)
  | dates hprogress _ hfresh hutc hgoes =>
    obtain ⟨haccounted, hattends⟩ := hs.attends hprogress
    have htimely := (h.waiting _ _ hprogress).1
    refine hgoes.timed (h.journal.take _ _) (fun hresolved => ?_) (fun hlive => ?_) (by rintro ⟨⟩)
    -- a session that has the time does not look for a TDT
    · cases hresolved.symm.trans htimely.1
    · exact ⟨hgoes.course.timeIsResolved.trans htimely.1,
        htimely.dated haccounted hattends hfresh hutc hgoes hlive⟩
  | resolves hprogress _ _ hresolves =>
    have hunresolved : s.timeIsResolved = false := (h.waiting _ _ hprogress).1.1
    exact hresolves.timed ((h.journal.take _ _).times_eq_nil hunresolved)
  | @defers goal since rest request hprogress hqueue hgoal =>
    exact h.append [.took (.channelChange request)] rfl rfl rfl rfl rfl rfl
      (List.forall_mem_singleton.2 ⟨rfl, rfl⟩)
  | @follows goal since rest request index hprogress =>
    have htaken := h.journal.take (.channelChange request) rest
    exact timed_findPmt devices (s := { s.take (.channelChange request) rest with index })
      ⟨htaken.once, htaken.later⟩ (live_of_waiting hprogress)
  | @passes goal since signal rest =>
    exact h.append [.took signal] rfl rfl rfl rfl rfl rfl
      (List.forall_mem_singleton.2 ⟨rfl, rfl⟩)

theorem timed_of_stays (h : s.Timed) (hstays : s.Stays t) : t.Timed := by
  obtain ⟨entries, hjournal, hentries⟩ := hstays.adds
  exact h.append entries hstays.course.services hstays.course.index hstays.course.timeIsResolved
    hstays.phase hstays.progress hjournal fun entry hmem =>
      ⟨(hentries entry hmem).programs, (hentries entry hmem).time⟩

theorem timed_start (config : Config) (hardware : σ) : (start config hardware).Timed where
  journal := .of_unresolved rfl rfl
  starting _ := rfl
  waiting _ _ := by rintro ⟨⟩

theorem timed_of_reachable {config : Config} (h : Reachable devices config s) : s.Timed := by
  obtain ⟨hardware, hrun⟩ := h
  induction hrun with
  | refl => exact timed_start config hardware
  | tail hrun hmove ih =>
    rcases hmove.step_or_stays with hstep | hstays
    · exact timed_of_turn devices (sound_of_reachable devices ⟨hardware, hrun⟩) ih
        (turn_of_step? devices hstep)
    · exact timed_of_stays ih hstays

end Session

end DvbReceiver
