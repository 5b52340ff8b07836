import DvbReceiver.Proofs.Session.Steps

/-!
# The course of a session

What a session has found out so far changes at few places: it takes up a PAT, follows a channel
request, and resolves the local time. Everything else that it does leaves its course as it is
(`SameCourse`) and leads to a goal, with a filter on one PID at most (`GoesFor`).
-/

namespace DvbReceiver

open Journal

/-- The local time that was delivered. -/
def Entry.time? : Entry → Option ResolvedTime
  | event (.timeResolved time) => some time
  | _ => none

/-- The entry takes no signal, programs no filter and delivers no time. -/
structure Entry.Aside (entry : Entry) : Prop where
  taken : entry.taken? = none
  programs : entry.programs = false
  time : entry.time? = none

/-- The entry programs a filter for the tables of the goal on the PID, or is an aside. -/
def Entry.Toward (goal : Goal) (pid : Nat) (entry : Entry) : Prop :=
  entry.Aside ∨ ∃ kind result, goal.kind? = some kind ∧
    entry = .event (.setFilter pid kind.tableId result)

namespace Holdings

variable {held : Holdings} {event : Event}

theorem aside_of_mem_filterRelease (h : event ∈ held.filterRelease) :
    (Entry.event event).Aside := by
  obtain ⟨handle, -, rfl⟩ := List.mem_map.1 h
  exact ⟨rfl, rfl, rfl⟩

theorem aside_of_mem_videoRelease (h : event ∈ held.videoRelease) : (Entry.event event).Aside := by
  obtain ⟨handle, -, rfl⟩ := List.mem_map.1 h
  exact ⟨rfl, rfl, rfl⟩

theorem aside_of_mem_audioRelease (h : event ∈ held.audioRelease) : (Entry.event event).Aside := by
  obtain ⟨handle, -, rfl⟩ := List.mem_map.1 h
  exact ⟨rfl, rfl, rfl⟩

/-- What gives something back is an aside. -/
theorem aside_of_mem_releases (h : event ∈ held.releases) : (Entry.event event).Aside := by
  simp only [releases, List.mem_append] at h
  rcases h with (((h | h) | h) | h) | h
  · exact aside_of_mem_filterRelease h
  · exact aside_of_mem_videoRelease h
  · exact aside_of_mem_audioRelease h
  · obtain rfl := List.mem_singleton.1 (List.mem_ite_nil_right.1 h).2
    exact ⟨rfl, rfl, rfl⟩
  · obtain rfl := List.mem_singleton.1 (List.mem_ite_nil_right.1 h).2
    exact ⟨rfl, rfl, rfl⟩

end Holdings

theorem Journal.Calls.aside {events : List Event} {entries : List Entry} (h : Calls events entries)
    (hevents : ∀ event ∈ events, (Entry.event event).Aside) : ∀ entry ∈ entries, entry.Aside :=
  h.forall_mem hevents (fun _ => ⟨rfl, rfl, rfl⟩) (fun _ => ⟨rfl, rfl, rfl⟩)

namespace Session

variable {σ : Type} (devices : Devices σ) {s t u : Session σ} {goal : Goal} {phase : Phase}
  {pid : Nat}

/-- `t` has found out as much as `s`. -/
structure SameCourse (s t : Session σ) : Prop where
  config : t.config = s.config
  services : t.services = s.services
  index : t.index = s.index
  deferred : t.deferred = s.deferred
  timeIsResolved : t.timeIsResolved = s.timeIsResolved

theorem SameCourse.trans (h : s.SameCourse t) (h' : t.SameCourse u) : s.SameCourse u where
  config := h'.config.trans h.config
  services := h'.services.trans h.services
  index := h'.index.trans h.index
  deferred := h'.deferred.trans h.deferred
  timeIsResolved := h'.timeIsResolved.trans h.timeIsResolved

/-! ## Going for a goal -/

/-- `s` goes on to wait for the goal in a phase, after it has programmed a filter on the PID if it
waits for a table, or ends by a failure of the hardware. -/
inductive GoesFor (s : Session σ) (goal : Goal) (phase : Phase) (pid : Nat) : Session σ → Prop
  | rests {t : Session σ} {since : Nat} (hkind : goal.kind? = none) (hcourse : s.SameCourse t)
    (hadds : s.Adds Entry.Aside t) (hphase : t.phase = phase)
    (hprogress : t.progress = .waiting goal since) : GoesFor s goal phase pid t
  | seeks {t : Session σ} {kind : TableKind} {handle : FilterHandle} {mid heard : List Entry}
    {since : Nat} (hkind : goal.kind? = some kind) (hcourse : s.SameCourse t)
    (hjournal : t.journal =
      s.journal ++ mid ++ .event (.setFilter pid kind.tableId (.ok handle)) :: heard)
    (hmid : ∀ entry ∈ mid, entry.Aside) (hheard : ∀ entry ∈ heard, entry.Aside)
    (hphase : t.phase = phase) (hprogress : t.progress = .waiting goal since) :
    GoesFor s goal phase pid t
  | fails {t : Session σ} {error : DeviceError} (hcourse : s.SameCourse t)
    (hadds : s.Adds (Entry.Toward goal pid) t)
    (hprogress : t.progress = .finished (.error (.device error))) : GoesFor s goal phase pid t

namespace GoesFor

theorem of_adds (hcourse : s.SameCourse t) (hadds : s.Adds Entry.Aside t)
    (h : t.GoesFor goal phase pid u) : s.GoesFor goal phase pid u := by
  cases h with
  | rests hkind hcourse' hadds' hphase hprogress =>
    exact .rests hkind (hcourse.trans hcourse') (hadds.trans hadds') hphase hprogress
  | @seeks kind handle mid heard _ hkind hcourse' hjournal hmid hheard hphase hprogress =>
    obtain ⟨entries, heq, hentries⟩ := hadds
    have hjournal' : u.journal = s.journal ++ (entries ++ mid) ++
        .event (.setFilter pid kind.tableId (.ok handle)) :: heard := by
      rw [hjournal, heq, List.append_assoc s.journal]
    exact .seeks hkind (hcourse.trans hcourse') hjournal'
      (List.forall_mem_append.2 ⟨hentries, hmid⟩) hheard hphase hprogress
  | fails hcourse' hadds' hprogress =>
    exact .fails (hcourse.trans hcourse') ((hadds.imp fun _ => Or.inl).trans hadds') hprogress

theorem course (h : s.GoesFor goal phase pid t) : s.SameCourse t := by
  cases h <;> assumption

theorem adds (h : s.GoesFor goal phase pid t) : s.Adds (Entry.Toward goal pid) t := by
  cases h with
  | rests _ _ hadds => exact hadds.imp fun _ => Or.inl
  | @seeks kind handle mid heard _ hkind _ hjournal hmid hheard =>
    refine ⟨mid ++ .event (.setFilter pid kind.tableId (.ok handle)) :: heard, ?_, ?_⟩
    · rw [hjournal, List.append_assoc]
    · rw [List.forall_mem_append, List.forall_mem_cons]
      exact ⟨fun entry hmem => Or.inl (hmid entry hmem), Or.inr ⟨kind, _, hkind, rfl⟩,
        fun entry hmem => Or.inl (hheard entry hmem)⟩
  | fails _ hadds => exact hadds

theorem progress (h : s.GoesFor goal phase pid t) :
    (∃ since, t.progress = .waiting goal since ∧ t.phase = phase) ∨
      ∃ error, t.progress = .finished (.error (.device error)) := by
  cases h with
  | rests _ _ _ hphase hprogress => exact Or.inl ⟨_, hprogress, hphase⟩
  | seeks _ _ _ _ _ hphase hprogress => exact Or.inl ⟨_, hprogress, hphase⟩
  | fails _ _ hprogress => exact Or.inr ⟨_, hprogress⟩

end GoesFor

theorem Makes.course {calls : List Event} {held : Holdings} (h : s.Makes calls held t) :
    s.SameCourse t ∧ t.phase = s.phase := by
  obtain ⟨hardware, entries, -, rfl⟩ := h
  exact ⟨⟨rfl, rfl, rfl, rfl, rfl⟩, rfl⟩

theorem Makes.adds_aside {calls : List Event} {held : Holdings} (h : s.Makes calls held t)
    (hcalls : ∀ event ∈ calls, (Entry.event event).Aside) : s.Adds Entry.Aside t := by
  obtain ⟨hardware, entries, hentries, rfl⟩ := h
  exact ⟨entries, rfl, hentries.aside hcalls⟩

theorem course_enter (s : Session σ) (phase : Phase) : s.SameCourse (s.enter phase) :=
  ⟨rfl, rfl, rfl, rfl, rfl⟩

theorem course_held (s : Session σ) (held : Holdings) : s.SameCourse { s with held } :=
  ⟨rfl, rfl, rfl, rfl, rfl⟩

theorem adds_aside_enter (s : Session σ) (phase : Phase) : s.Adds Entry.Aside (s.enter phase) :=
  ⟨[.entered phase], rfl, List.forall_mem_singleton.2 ⟨rfl, rfl, rfl⟩⟩

/-- The end of a session leaves its course as it is. -/
theorem course_finish (hlive : s.outcome? = none) (outcome : Outcome) :
    s.SameCourse (s.finish devices outcome) ∧ s.Adds Entry.Aside (s.finish devices outcome) := by
  obtain ⟨hardware, entries, hcalls, heq⟩ := exists_finish devices hlive outcome
  rw [heq]
  refine ⟨⟨rfl, rfl, rfl, rfl, rfl⟩, .ended outcome :: entries ++ [.entered .tornDown], by simp, ?_⟩
  rw [List.forall_mem_append, List.forall_mem_cons, List.forall_mem_singleton]
  exact ⟨⟨⟨rfl, rfl, rfl⟩, hcalls.aside fun _ => Holdings.aside_of_mem_releases⟩, ⟨rfl, rfl, rfl⟩⟩

/-- A failure of the hardware ends the session. -/
theorem GoesFor.of_failure (hcourse : s.SameCourse t) (hadds : s.Adds (Entry.Toward goal pid) t)
    (hlive : t.outcome? = none) (error : DeviceError) :
    s.GoesFor goal phase pid (t.finish devices (.error (.device error))) := by
  obtain ⟨hcourse', hadds'⟩ := course_finish devices hlive (.error (.device error))
  exact .fails (hcourse.trans hcourse') (hadds.trans (hadds'.imp fun _ => Or.inl)) rfl

theorem goesFor_awaitTable (hlive : s.outcome? = none) (hphase : s.phase = phase)
    {kind : TableKind} (hkind : goal.kind? = some kind) :
    s.GoesFor goal phase pid (s.awaitTable devices pid kind goal) := by
  have hprogrammed := programmed_awaitTable devices hlive pid kind goal
  generalize s.awaitTable devices pid kind goal = next at hprogrammed ⊢
  cases hprogrammed with
  | waiting t hardware heard handle hfree hheard =>
    obtain ⟨hcourse, hsame⟩ := hfree.course
    obtain ⟨mid, hjournal, hmid⟩ := hfree.adds_aside fun _ => Holdings.aside_of_mem_filterRelease
    have hseeks : t.journal ++ .event (.setFilter pid kind.tableId (.ok handle)) :: heard =
        s.journal ++ mid ++ .event (.setFilter pid kind.tableId (.ok handle)) :: heard := by
      rw [hjournal]
    exact .seeks hkind (hcourse.trans ⟨rfl, rfl, rfl, rfl, rfl⟩) hseeks hmid
      (hheard.aside (List.forall_mem_nil _)) (hsame.trans hphase) rfl
  | failed t hardware heard error hfree hheard =>
    have hadds := hfree.adds_aside fun _ => Holdings.aside_of_mem_filterRelease
    have hcourse : s.SameCourse ({ t with hardware, mark := t.registry.sequence }.hear
        (.event (.setFilter pid kind.tableId (.error error)) :: heard)) :=
      hfree.course.1.trans ⟨rfl, rfl, rfl, rfl, rfl⟩
    refine .of_failure devices hcourse (Adds.trans (hadds.imp fun _ => Or.inl) ?_)
      (hfree.outcome?_eq.trans hlive) error
    refine ⟨_, rfl, List.forall_mem_cons.2 ⟨Or.inr ⟨kind, _, hkind, rfl⟩, fun entry hmem => ?_⟩⟩
    exact Or.inl (hheard.aside (List.forall_mem_nil _) entry hmem)

theorem goesFor_enter_awaitTable (hlive : s.outcome? = none) {kind : TableKind} (phase : Phase)
    (hkind : goal.kind? = some kind) :
    s.GoesFor goal phase pid ((s.enter phase).awaitTable devices pid kind goal) :=
  (goesFor_awaitTable devices (s := s.enter phase) hlive rfl hkind).of_adds (course_enter s phase)
    (adds_aside_enter s phase)

theorem goesFor_begin (hlive : s.outcome? = none) (pid : Nat) :
    s.GoesFor .locked .tunerLocking pid (s.begin devices) := by
  unfold begin
  extract_lets entered reply asked
  have hmakes : entered.Makes _ _ asked := makes_absorb (s := entered) hlive _ reply
  have hadds : s.Adds Entry.Aside asked := (adds_aside_enter s _).trans
    (hmakes.adds_aside (List.forall_mem_singleton.2 ⟨rfl, rfl, rfl⟩))
  obtain ⟨hcourse, hphase⟩ := hmakes.course
  have hcourse' : s.SameCourse asked := (course_enter s _).trans hcourse
  clear_value asked
  split
  · exact .of_failure devices hcourse' (hadds.imp fun _ => Or.inl)
      (hmakes.outcome?_eq.trans hlive) _
  · exact .rests rfl (hcourse'.trans ⟨rfl, rfl, rfl, rfl, rfl⟩) (hadds.trans (Adds.of_eq rfl))
      hphase rfl

theorem goesFor_findPat (hlive : s.outcome? = none) :
    s.GoesFor .pat .awaitingPat patPid (s.findPat devices) := by
  unfold findPat
  extract_lets entered reply asked
  have hmakes : entered.Makes _ _ asked := makes_absorb (s := entered) hlive _ reply
  have hadds : s.Adds Entry.Aside asked := (adds_aside_enter s _).trans
    (hmakes.adds_aside (List.forall_mem_singleton.2 ⟨rfl, rfl, rfl⟩))
  obtain ⟨hcourse, hphase⟩ := hmakes.course
  have hcourse' : s.SameCourse asked := (course_enter s _).trans hcourse
  have hasked : asked.outcome? = none := hmakes.outcome?_eq.trans hlive
  clear_value asked
  split
  · exact .of_failure devices hcourse' (hadds.imp fun _ => Or.inl) hasked _
  · have hopened := course_held asked { asked.held with sourceOpen := true }
    have hgoes : GoesFor { asked with held.sourceOpen := true } .pat .awaitingPat patPid _ :=
      goesFor_awaitTable devices (by exact hasked) (by exact hphase) rfl
    exact hgoes.of_adds (hcourse'.trans hopened) (hadds.trans (Adds.of_eq rfl))

theorem goesFor_findPmt (hlive : s.outcome? = none) {service : Pat.Service}
    (hservice : s.services[s.index]? = some service) :
    s.GoesFor (.pmt service.programNumber) .awaitingPmt service.pid (s.findPmt devices) := by
  rw [findPmt, hservice]
  exact goesFor_enter_awaitTable devices hlive _ rfl

theorem goesFor_findTdt (hlive : s.outcome? = none) :
    s.GoesFor .tdt .awaitingTdt timePid (s.findTdt devices) :=
  goesFor_enter_awaitTable devices hlive _ rfl

theorem goesFor_findTot (hlive : s.outcome? = none) (utc : DateTime) :
    s.GoesFor (.tot utc (1000000 * s.clock)) .awaitingTot timePid (s.findTot devices utc) :=
  goesFor_enter_awaitTable devices hlive _ rfl

/-! ## After binding -/

/-- Streams have been bound, and the session rests if it knows the local time, or else goes for
it. -/
def GoesOn (s t : Session σ) : Prop :=
  if s.timeIsResolved then s.GoesFor .request .streamsBound timePid t
  else s.GoesFor .tdt .awaitingTdt timePid t

theorem GoesOn.of_adds (hcourse : s.SameCourse t) (hadds : s.Adds Entry.Aside t) (h : t.GoesOn u) :
    s.GoesOn u := by
  unfold GoesOn at h ⊢
  rw [hcourse.timeIsResolved] at h
  by_cases hresolved : s.timeIsResolved
  · rw [if_pos hresolved] at h ⊢
    exact h.of_adds hcourse hadds
  · rw [if_neg hresolved] at h ⊢
    exact h.of_adds hcourse hadds

theorem GoesOn.course (h : s.GoesOn t) : s.SameCourse t := by
  unfold GoesOn at h
  split at h
  · exact h.course
  · exact h.course

theorem GoesOn.of_failure (hcourse : s.SameCourse t) (hadds : s.Adds Entry.Aside t)
    (hlive : t.outcome? = none) (error : DeviceError) :
    s.GoesOn (t.finish devices (.error (.device error))) := by
  unfold GoesOn
  split
  · exact .of_failure devices hcourse (hadds.imp fun _ => Or.inl) hlive error
  · exact .of_failure devices hcourse (hadds.imp fun _ => Or.inl) hlive error

theorem goesOn_announce (hlive : s.outcome? = none) (channel : ChannelInfo) :
    s.GoesOn (s.announce devices channel) := by
  unfold announce
  extract_lets entered shown
  have hcourse : s.SameCourse shown := ⟨rfl, rfl, rfl, rfl, rfl⟩
  have hadds : s.Adds Entry.Aside shown := by
    refine ⟨[.entered .streamsBound, .event (.channelBound channel)], ?_, ?_⟩
    · simp [shown, entered, enter, record]
    · simp only [List.forall_mem_cons, List.not_mem_nil, false_implies, implies_true, and_true]
      exact ⟨⟨rfl, rfl, rfl⟩, ⟨rfl, rfl, rfl⟩⟩
  refine GoesOn.of_adds hcourse hadds ?_
  unfold GoesOn
  split
  · exact .rests rfl ⟨rfl, rfl, rfl, rfl, rfl⟩ (Adds.of_eq rfl) rfl rfl
  · exact goesFor_findTdt devices hlive

/-- The request for a stream is an aside. -/
theorem Created.aside {stream : Option Pmt.Stream} {calls : List Event}
    {result : Except DeviceError (Option (Nat × StreamHandle))} (h : Created stream calls result) :
    ∀ event ∈ calls, (Entry.event event).Aside := by
  cases h with
  | nothing => exact List.forall_mem_nil _
  | created => exact List.forall_mem_singleton.2 ⟨rfl, rfl, rfl⟩
  | failed => exact List.forall_mem_singleton.2 ⟨rfl, rfl, rfl⟩

theorem goesOn_bindAudio (hlive : s.outcome? = none) (pmt : Pmt) (videoPid : Option Nat) :
    s.GoesOn (s.bindAudio devices pmt videoPid) := by
  obtain ⟨calls, result, t, heq, hcreated, hmakes⟩ :=
    created_createStream devices hlive pmt.firstAudio?
  have hadds := hmakes.adds_aside hcreated.aside
  have ht := hmakes.outcome?_eq.trans hlive
  unfold bindAudio
  rw [heq]
  rcases result with error | audio
  · exact .of_failure devices hmakes.course.1 hadds ht error
  · have hcreated := course_held t { t.held with audio := audio.map Prod.snd }
    have hgoes := goesOn_announce devices (s := { t with held.audio := audio.map Prod.snd }) ht
    exact (hgoes _).of_adds (hmakes.course.1.trans hcreated) (hadds.trans (Adds.of_eq rfl))

theorem goesOn_bindVideo (hlive : s.outcome? = none) (pmt : Pmt) :
    s.GoesOn (s.bindVideo devices pmt) := by
  obtain ⟨calls, result, t, heq, hcreated, hmakes⟩ :=
    created_createStream devices hlive pmt.firstVideo?
  have hadds := hmakes.adds_aside hcreated.aside
  have ht := hmakes.outcome?_eq.trans hlive
  unfold bindVideo
  rw [heq]
  rcases result with error | video
  · exact .of_failure devices hmakes.course.1 hadds ht error
  · have hcreated := course_held t { t.held with video := video.map Prod.snd }
    have hgoes := goesOn_bindAudio devices (s := { t with held.video := video.map Prod.snd }) ht pmt
    exact (hgoes _).of_adds (hmakes.course.1.trans hcreated) (hadds.trans (Adds.of_eq rfl))

theorem goesOn_bindStreams (hlive : s.outcome? = none) (pmt : Pmt) :
    s.GoesOn (s.bindStreams devices pmt) := by
  have hvideo := makes_removeVideo devices hlive
  have haudio := makes_removeAudio devices (hvideo.outcome?_eq.trans hlive)
  refine (goesOn_bindVideo devices (haudio.outcome?_eq.trans (hvideo.outcome?_eq.trans hlive))
    pmt).of_adds (hvideo.course.1.trans haudio.course.1) ?_
  refine (hvideo.adds_aside fun event hmem => ?_).trans (haudio.adds_aside fun event hmem => ?_)
  · exact Holdings.aside_of_mem_videoRelease hmem
  · exact Holdings.aside_of_mem_audioRelease hmem

/-! ## The local time -/

/-- `s` delivers the local time, and waits for requests as `t`. -/
structure Resolves (s : Session σ) (time : ResolvedTime) (t : Session σ) : Prop where
  config : t.config = s.config
  services : t.services = s.services
  index : t.index = s.index
  timeIsResolved : t.timeIsResolved = true
  journal : ∃ mid, t.journal = s.journal ++ mid ++ [.event (.timeResolved time)] ∧
    ∀ entry ∈ mid, entry.Aside
  phase : t.phase = .timeResolved
  progress : ∃ since, t.progress = .waiting .request since

theorem resolves_resolveTime (hlive : s.outcome? = none) (utc : DateTime) (capturedAt : Int)
    (tot : Tot) :
    s.Resolves (.ofLocal (LocalTime.resolve utc (some tot) s.config.countryCode) capturedAt)
      (s.resolveTime devices utc capturedAt tot) := by
  have hmakes := makes_freeFilter devices hlive
  obtain ⟨mid, hjournal, hmid⟩ := hmakes.adds_aside fun _ => Holdings.aside_of_mem_filterRelease
  obtain ⟨hcourse, -⟩ := hmakes.course
  unfold resolveTime
  extract_lets freed time resolved
  have hfreed : freed = s.freeFilter devices := rfl
  refine ⟨hcourse.config, hcourse.services, hcourse.index, rfl,
    ⟨mid ++ [.entered .timeResolved], ?_, ?_⟩, rfl, ⟨_, rfl⟩⟩
  · simp only [await, record, resolved, enter, time]
    rw [hfreed, hjournal, hcourse.config]
    simp
  · rw [List.forall_mem_append, List.forall_mem_singleton]
    exact ⟨hmid, rfl, rfl, rfl⟩

end Session

end DvbReceiver
