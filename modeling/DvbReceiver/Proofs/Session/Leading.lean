import DvbReceiver.Proofs.Session.Attending

/-!
# Where a session is led

Each function of the session that acquires something leads on to a session that waits for its next
goal, or to the end of the session. That a wait is in order (`Waits`) is shown once, for the
functions that program a filter, in `leads_awaitTable`.
-/

namespace DvbReceiver

open Journal

namespace Session

variable {σ : Type} (devices : Devices σ) {s t : Session σ}

/-- The session waits for a goal that has not been met. -/
def Waits (s : Session σ) : Prop :=
  ∃ goal since, s.progress = .waiting goal since ∧ s.Attends goal

/-! ## Programming a filter -/

theorem leads_awaitTable (h : s.Accounted) {pid : Nat} {kind : TableKind} {goal : Goal}
    (hkind : goal.kind? = some kind) (hservices : ¬goal.Defers → s.FromPat)
    (hpid : ∀ programNumber, goal = .pmt programNumber →
      s.services[s.index]? = some { programNumber, pid }) :
    Leads devices s Waits (s.awaitTable devices pid kind goal) := by
  have hprogrammed := programmed_awaitTable devices h.live pid kind goal
  generalize s.awaitTable devices pid kind goal = next at hprogrammed ⊢
  cases hprogrammed with
  | waiting t hardware heard handle hfree hheard =>
    have ht := h.makes hfree h.accounts.orderly.filterRelease
    have hfilter : t.held.filter = none := by rw [hfree.held_eq]
    have hcalls := hheard.call (.setFilter pid kind.tableId (.ok handle))
    have hadds := (hfree.adds fun _ hmem => Holdings.binds_of_mem_filterRelease hmem).trans
      (u := { t with hardware, mark := t.registry.sequence }.hear _)
      ⟨_, rfl, hcalls.routine (by simp [Event.binds])⟩
    refine .goes hadds
      ⟨rfl, ht.accounts.hear hcalls (ht.accounts.orderly.concat (.setFilter _ _ _ hfilter))⟩ ?_
    have hmark : t.registry.sequence = (tables t.journal).length := by
      rw [ht.accounts.registry, Registry.sequence_ofTables]
    refine ⟨goal, _, rfl, ?_, ?_, ?_⟩
    · intro kind' hkind'
      obtain rfl := Option.some.inj (hkind.symm.trans hkind')
      refine Watches.of_calls rfl hheard hmark rfl ?_
      simp only [await, hear, hfree.services_eq, hfree.index_eq]
      exact hpid
    · rintro rfl
      cases hkind
    · intro hgoal
      exact (hservices hgoal).of_adds hadds hfree.services_eq
  | failed t hardware heard error hfree hheard =>
    have ht := h.makes hfree h.accounts.orderly.filterRelease
    have hfilter : t.held.filter = none := by rw [hfree.held_eq]
    have hcalls := hheard.call (.setFilter pid kind.tableId (.error error))
    have hadds := hfree.adds fun _ hmem => Holdings.binds_of_mem_filterRelease hmem
    have horderly := ht.accounts.orderly.concat
      (.setFilter_error pid kind.tableId error hfilter)
    refine .ends ?_ ?_ _
    · exact hadds.trans ⟨_, rfl, hcalls.routine (by simp [Event.binds])⟩
    · exact ⟨ht.live, ht.accounts.hear hcalls horderly⟩

theorem leads_enter_awaitTable (h : s.Accounted) (phase : Phase) {pid : Nat} {kind : TableKind}
    {goal : Goal} (hkind : goal.kind? = some kind) (hpat : s.FromPat)
    (hpid : ∀ programNumber, goal = .pmt programNumber →
      s.services[s.index]? = some { programNumber, pid }) :
    Leads devices s Waits ((s.enter phase).awaitTable devices pid kind goal) := by
  have hadds := adds_enter s phase
  exact (leads_awaitTable devices (h.enter phase) hkind (fun _ => hpat.of_adds hadds rfl)
    hpid).of_adds devices hadds

theorem leads_findPmt (h : s.Accounted) (hpat : s.FromPat) :
    Leads devices s Waits (s.findPmt devices) := by
  unfold findPmt
  split
  · exact .ends (Adds.of_eq rfl) h _
  · next service hservice =>
    refine leads_enter_awaitTable devices h .awaitingPmt rfl hpat ?_
    rintro _ ⟨⟩
    exact hservice

theorem leads_findTdt (h : s.Accounted) (hpat : s.FromPat) :
    Leads devices s Waits (s.findTdt devices) :=
  leads_enter_awaitTable devices h .awaitingTdt rfl hpat (by rintro _ ⟨⟩)

theorem leads_findTot (h : s.Accounted) (hpat : s.FromPat) (utc : DateTime) :
    Leads devices s Waits (s.findTot devices utc) :=
  leads_enter_awaitTable devices h .awaitingTot rfl hpat (by rintro _ ⟨⟩)

theorem leads_adoptPat (h : s.Accounted) {pat : Pat} (hpat : .stored (.pat pat) ∈ s.journal) :
    Leads devices s Waits (s.adoptPat devices pat) := by
  unfold adoptPat
  extract_lets count
  split
  · exact .ends (Adds.of_eq rfl) h _
  · refine Leads.of_adds devices ?_ (leads_findPmt devices ?_ ?_)
    · exact Adds.of_eq rfl
    · exact ⟨h.live, h.accounts⟩
    · exact ⟨pat, hpat, rfl⟩

/-- Going on to wait for requests only. -/
theorem leads_await_request (h : s.Accounted) (hpat : s.FromPat) :
    Leads devices s Waits (s.await .request) := by
  refine .goes (Adds.of_eq rfl) ⟨rfl, h.accounts⟩ ⟨.request, _, rfl, ?_, ?_, fun _ => hpat⟩
  · intro _ hkind
    cases hkind
  · intro hgoal
    cases hgoal

/-! ## The tuner, the source and the local time -/

theorem leads_begin (h : s.Accounted) (hheld : s.held = {})
    (hcalls : ∀ event ∈ s.events, event.isCall = false) :
    Leads devices s Waits (s.begin devices) := by
  unfold begin
  extract_lets entered reply asked
  have hentered : entered.Accounted := h.enter .tunerLocking
  have hmakes : entered.Makes _ _ asked := makes_absorb hentered.live _ reply
  have hevents : entered.events = s.events := by simp [events, entered, enter, record, Entry.event?]
  have hfirst : ∀ event ∈ entered.events, event.isLock = false := by
    intro event hmem
    exact Event.isLock_of_isCall (hcalls event (hevents ▸ hmem))
  have hfree : entered.held.tunerEngaged = false := by simp [entered, enter, record, hheld]
  have hadds : s.Adds Entry.Routine asked :=
    (adds_enter s .tunerLocking).trans (hmakes.adds (by simp [Event.binds]))
  clear_value asked
  split
  · next error herror =>
    rw [herror] at hmakes
    exact .ends hadds
      (hentered.makes hmakes (hentered.accounts.orderly.concat (.lock_error _ _ hfirst hfree))) _
  · next hok =>
    rw [hok] at hmakes
    have haccounts := hentered.accounts_of_makes hmakes
      (hentered.accounts.orderly.concat (.lock _ _ hfirst hfree))
    rw [← hmakes.held_eq] at haccounts
    refine .goes hadds ⟨rfl, haccounts⟩ ⟨.locked, _, rfl, ?_, ?_, ?_⟩
    · rintro _ ⟨⟩
    · intro _
      have hclosed : asked.held.sourceOpen = false := by
        rw [hmakes.held_eq]
        exact congrArg Holdings.sourceOpen hheld
      refine ⟨hclosed, fun event hmem => ?_⟩
      change event ∈ asked.events at hmem
      rw [hmakes.events_eq, hevents, List.mem_append, List.mem_singleton] at hmem
      rcases hmem with hmem | rfl
      · exact Event.isOpen_of_isCall (hcalls event hmem)
      · rfl
    · intro hgoal
      exact absurd (Or.inl rfl) hgoal

theorem leads_findPat (h : s.Accounted) (hclosed : s.held.sourceOpen = false)
    (hopen : ∀ event ∈ s.events, event.isOpen = false) :
    Leads devices s Waits (s.findPat devices) := by
  unfold findPat
  extract_lets entered reply asked
  have hentered : entered.Accounted := h.enter .awaitingPat
  have hmakes : entered.Makes _ _ asked := makes_absorb hentered.live _ reply
  have hfirst : ∀ event ∈ entered.events, event.isOpen = false := by
    simpa [events, entered, enter, record, Entry.event?] using hopen
  have hadds : s.Adds Entry.Routine asked :=
    (adds_enter s .awaitingPat).trans (hmakes.adds (by simp [Event.binds]))
  clear_value asked
  split
  · next error herror =>
    rw [herror] at hmakes
    exact .ends hadds
      (hentered.makes hmakes (hentered.accounts.orderly.concat
        (.openSource_error _ hfirst hclosed))) _
  · next hok =>
    rw [hok] at hmakes
    have haccounts := hentered.accounts_of_makes hmakes
      (hentered.accounts.orderly.concat (.openSource _ hfirst hclosed))
    rw [← hmakes.held_eq] at haccounts
    have hopened : { asked with held.sourceOpen := true }.Accounted :=
      ⟨hmakes.outcome?_eq.trans hentered.live, haccounts⟩
    refine Leads.of_adds devices ?_ (leads_awaitTable devices hopened ?_ ?_ ?_)
    · exact hadds.trans (Adds.of_eq rfl)
    · rfl
    · intro hgoal
      exact absurd (Or.inr rfl) hgoal
    · rintro _ ⟨⟩

theorem leads_resolveTime (h : s.Accounted) (hpat : s.FromPat) (utc : DateTime) (capturedAt : Int)
    (tot : Tot) : Leads devices s Waits (s.resolveTime devices utc capturedAt tot) := by
  have hmakes := makes_freeFilter devices h.live
  have hfreed := h.makes hmakes h.accounts.orderly.filterRelease
  have hadds := hmakes.adds fun _ hmem => Holdings.binds_of_mem_filterRelease hmem
  unfold resolveTime
  extract_lets freed time resolved
  have hresolved : s.Adds Entry.Routine resolved :=
    hadds.trans ((Adds.of_eq rfl).trans (adds_enter { freed with timeIsResolved := true } _))
  have hnotified : s.Adds Entry.Routine
      (resolved.record (.event (.timeResolved (.ofLocal time capturedAt)))) := by
    refine hresolved.trans ⟨[_], rfl, fun entry hmem => ?_⟩
    rw [List.mem_singleton.1 hmem]
    exact ⟨rfl, by rintro _ ⟨⟩; rfl⟩
  refine (leads_await_request devices ?_ ?_).of_adds devices hnotified
  · have hentered : resolved.Accounted :=
      Accounted.enter (s := { freed with timeIsResolved := true })
        ⟨hfreed.live, hfreed.accounts⟩ .timeResolved
    exact hentered.notify (by rfl)
  · exact hpat.of_adds hnotified hmakes.services_eq

end Session

end DvbReceiver
