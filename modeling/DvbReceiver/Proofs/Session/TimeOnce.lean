import DvbReceiver.Proofs.LocalTime
import DvbReceiver.Proofs.Session.Timed
import DvbReceiver.Proofs.Simulation.Runs

/-!
# The local time is delivered once

A session looks for the local time until it has found it, and never again. When it delivers it, the
last two filters were those for the TDT and for the TOT, one after the other with no channel change
in between, and the time comes from what these two brought (`DeliversTime`). So an attempt that is
broken off leaves nothing behind. A session that shows streams without looking for the local time
has delivered it (`timeOnce_of_reachable`).
-/

namespace DvbReceiver

open Journal

namespace Session

variable {σ : Type} (devices : Devices σ) {s t : Session σ} {entries : List Entry}

/-! ## The delivery -/

/-- The time was delivered behind the entries, by one attempt of `s` that was not broken off: for a
TDT that has come since the filter for it, and a TOT that has come since the filter for that. -/
structure DeliversTime (s : Session σ) (entries : List Entry) (time : ResolvedTime) : Prop where
  attempt : ∃ before first between second after,
    entries = before ++
      .event (.setFilter timePid TableKind.tdt.tableId (.ok first)) :: between ++
      .event (.setFilter timePid TableKind.tot.tableId (.ok second)) :: after ∧
    (∀ entry ∈ between ++ after, entry.programs = false) ∧
    (∀ request, .took (.channelChange request) ∈ between ++ after →
      Channel.next? s.index s.services.length request = none) ∧
    ∃ tdt utc tot capturedAt, .stored (.tdt tdt) ∈ between ∧ tdt.utc? = some utc ∧
      .stored (.tot tot) ∈ after ∧
      time = .ofLocal (LocalTime.resolve utc (some tot) s.config.countryCode) capturedAt

/-- What the turn that takes up the TOT delivers. -/
theorem deliversTime_of_resolves {since : Nat} {utc : DateTime}
    {capturedAt : Int} {tot : Tot} {time : ResolvedTime} {mid : List Entry} (hs : s.Sound)
    (h : s.Timed) (hprogress : s.progress = .waiting (.tot utc capturedAt) since)
    (hfresh : s.registry.fresh? .tot s.mark = some (.tot tot)) (hmid : ∀ entry ∈ mid, entry.Aside)
    (htime : time = .ofLocal (LocalTime.resolve utc (some tot) s.config.countryCode) capturedAt) :
    s.DeliversTime (s.journal ++ .took (.tableArrived .tot) :: mid) time := by
  obtain ⟨haccounted, hattends⟩ := hs.attends hprogress
  have hwatches := hattends.watches .tot rfl
  have hstored := hwatches.stored_of_fresh? haccounted hfresh
  obtain ⟨-, before, first, between, second, tdt, hjournal, hbetween, hrequest, htdt, hutc⟩ :=
    (h.waiting _ _ hprogress).1
  refine ⟨before, first, between, second,
    sinceFilter s.journal ++ .took (.tableArrived .tot) :: mid, ?_, ?_, ?_,
    tdt, utc, tot, capturedAt, htdt, hutc, List.mem_append_left _ hstored, htime⟩
  · rw [← List.cons_append, ← List.append_assoc, ← hjournal]
  · rw [List.forall_mem_append, List.forall_mem_append, List.forall_mem_cons]
    exact ⟨hbetween, fun _ => programs_of_mem_sinceFilter, rfl,
      fun entry hmem => (hmid entry hmem).programs⟩
  · intro request hmem
    rw [List.mem_append, List.mem_append, List.mem_cons] at hmem
    rcases hmem with hmem | hmem | hmem | hmem
    · exact hrequest request hmem
    · exact hwatches.unfollowed request hmem (by simp [Goal.Defers])
    · cases hmem
    · cases (hmid _ hmem).taken

theorem adds_untimed_finish (hlive : s.outcome? = none) (outcome : Outcome) :
    s.Adds (fun entry => entry.time? = none) (s.finish devices outcome) :=
  (course_finish devices hlive outcome).2.imp fun _ h => h.time

theorem adds_untimed_findPmt (hlive : s.outcome? = none) :
    s.Adds (fun entry => entry.time? = none) (s.findPmt devices) := by
  rcases hservice : s.services[s.index]? with _ | service
  · rw [findPmt, hservice]
    exact (course_finish devices hlive _).2.imp fun _ h => h.time
  · exact (goesFor_findPmt devices hlive hservice).adds.imp fun _ h => h.time

theorem adds_untimed_adoptPat (hlive : s.outcome? = none) (pat : Pat) :
    s.Adds (fun entry => entry.time? = none) (s.adoptPat devices pat) := by
  unfold adoptPat
  extract_lets count
  split
  · exact adds_untimed_finish devices hlive _
  · refine Adds.trans (Adds.of_eq ?_) (adds_untimed_findPmt devices ?_)
    · rfl
    · exact hlive

theorem GoesOn.adds_untimed (h : s.GoesOn t) : s.Adds (fun entry => entry.time? = none) t := by
  unfold GoesOn at h
  split at h
  · exact h.adds.imp fun _ h => h.time
  · exact h.adds.imp fun _ h => h.time

/-- A time that has been delivered was there before a turn, or the turn delivers it. -/
theorem delivered_of_turn (hs : s.Sound) (h : s.Timed) (hturn : Turn devices s t)
    {time : ResolvedTime} {rest : List Entry}
    (hjournal : t.journal = entries ++ .event (.timeResolved time) :: rest) :
    (∃ more, s.journal = entries ++ .event (.timeResolved time) :: more) ∨
      s.journal <+: entries ∧ s.DeliversTime entries time := by
  have hkept : s.Adds (fun entry => entry.time? = none) t →
      ∃ more, s.journal = entries ++ .event (.timeResolved time) :: more := by
    rintro ⟨new, hnew, hnone⟩
    refine split_of_not_mem (hnew.symm.trans hjournal) fun hmem => ?_
    cases hnone _ hmem
  have htake : ∀ signal left, s.Adds (fun entry => entry.time? = none) (s.take signal left) :=
    fun signal left => ⟨[.took signal], rfl, List.forall_mem_singleton.2 rfl⟩
  cases hturn with
  | begins _ hgoes => exact Or.inl (hkept (hgoes.adds.imp fun _ h => h.time))
  | expires hprogress =>
    exact Or.inl (hkept (adds_untimed_finish devices (live_of_waiting hprogress) _))
  | @ends _ _ left hprogress =>
    have hfinish := adds_untimed_finish devices (s := s.take .shutdown left)
      (live_of_waiting hprogress) (.ok ())
    exact Or.inl (hkept ((htake _ _).trans hfinish))
  | opens _ _ hgoes =>
    exact Or.inl (hkept ((htake _ _).trans (hgoes.adds.imp fun _ h => h.time)))
  | @adopts _ left pat hprogress =>
    have hadopt := adds_untimed_adoptPat devices (s := s.take (.tableArrived .pat) left)
      (live_of_waiting hprogress) pat
    exact Or.inl (hkept ((htake _ _).trans hadopt))
  | binds _ _ hgoes => exact Or.inl (hkept ((htake _ _).trans hgoes.adds_untimed))
  | dates _ _ _ _ hgoes =>
    exact Or.inl (hkept ((htake _ _).trans (hgoes.adds.imp fun _ h => h.time)))
  | @defers goal since rest request =>
    exact Or.inl (hkept ⟨[.took (.channelChange request)], rfl, List.forall_mem_singleton.2 rfl⟩)
  | @follows goal since left request index hprogress =>
    have hfind := adds_untimed_findPmt devices
      (s := { s.take (.channelChange request) left with index }) (live_of_waiting hprogress)
    exact Or.inl (hkept ((htake (.channelChange request) left).trans
      ((Adds.of_eq rfl).trans hfind)))
  | passes => exact Or.inl (hkept (htake _ _))
  | @resolves _ since left utc capturedAt tot hprogress _ hfresh hresolves =>
    obtain ⟨mid, hmore, hmid⟩ := hresolves.journal
    -- the only turn that delivers, and the delivery is its last entry
    have hunresolved : s.timeIsResolved = false := (h.waiting _ _ hprogress).1.1
    have hnone : times ((s.take (.tableArrived .tot) left).journal ++ mid) = [] := by
      rw [times_append, (h.journal.take _ _).times_eq_nil hunresolved,
        Journal.times_eq_nil fun entry hmem => (hmid entry hmem).time, List.append_nil]
    obtain ⟨hentries, htime, -⟩ :=
      split_last (hmore.symm.trans hjournal) (not_mem_of_times_eq_nil hnone)
    have htake : (s.take (.tableArrived .tot) left).journal =
      s.journal ++ [.took (.tableArrived .tot)] := rfl
    rw [htake, List.append_assoc, List.singleton_append] at hentries
    rw [Entry.event.injEq, Event.timeResolved.injEq] at htime
    rw [hentries]
    exact Or.inr ⟨List.prefix_append _ _,
      deliversTime_of_resolves hs h hprogress hfresh hmid htime⟩

/-- Every time that has been delivered was delivered in some step. -/
theorem exists_deliversTime {config : Config} (h : Reachable devices config t)
    {time : ResolvedTime} {rest : List Entry}
    (hjournal : t.journal = entries ++ .event (.timeResolved time) :: rest) :
    ∃ s u, Reachable devices config s ∧ s.step? devices = some u ∧ s.journal <+: entries ∧
      entries ++ [.event (.timeResolved time)] <+: u.journal ∧ s.DeliversTime entries time := by
  obtain ⟨hardware, hrun⟩ := h
  induction hrun generalizing rest with
  | refl =>
    have hmem : Entry.event (.timeResolved time) ∈ (start config hardware).journal := by
      simp [hjournal]
    simp [start] at hmem
  | @tail s t hrun hmove ih =>
    have hreach : Reachable devices config s := ⟨hardware, hrun⟩
    rcases hmove.step_or_stays with hstep | hstays
    · rcases delivered_of_turn devices (sound_of_reachable devices hreach)
        (timed_of_reachable devices hreach) (turn_of_step? devices hstep) hjournal with
        ⟨more, hmore⟩ | ⟨hearlier, hdelivers⟩
      · exact ih hmore
      · have hnew : entries ++ [.event (.timeResolved time)] <+: t.journal :=
          ⟨rest, by simp [hjournal]⟩
        exact ⟨s, t, hreach, hstep, hearlier, hnew, hdelivers⟩
    · obtain ⟨new, hnew, haside⟩ := hstays.adds
      obtain ⟨more, hmore⟩ := split_of_not_mem (hnew.symm.trans hjournal) fun hmem => by
        cases (haside _ hmem).time
      exact ih hmore

/-- **The local time is delivered once**, from one attempt that was not broken off. Later filters
are for PMTs only. And a session that rests with its streams has delivered it. -/
theorem timeOnce_of_reachable {config : Config} (h : Reachable devices config t) :
    (∀ entries time rest, t.journal = entries ++ .event (.timeResolved time) :: rest →
      (∀ other, .event (.timeResolved other) ∉ entries ++ rest) ∧
      (∃ s u, Reachable devices config s ∧ s.step? devices = some u ∧ s.journal <+: entries ∧
        entries ++ [.event (.timeResolved time)] <+: u.journal ∧ s.DeliversTime entries time) ∧
      ∀ entry ∈ rest, entry.SeeksService t.services) ∧
    (∀ goal since, t.progress = .waiting goal since → t.queue = [] → t.phase = .streamsBound →
      ∃ time, .event (.timeResolved time) ∈ t.journal) := by
  have htimed := timed_of_reachable devices h
  refine ⟨fun entries time rest hjournal => ⟨?_, exists_deliversTime devices h hjournal,
    htimed.journal.later entries time rest hjournal⟩, fun goal since hprogress _ hphase => ?_⟩
  · have hle := Bool.toNat_le t.timeIsResolved
    have hsplit : times t.journal = times entries ++ time :: times rest := by
      rw [hjournal, times_append]
      rfl
    rw [← htimed.journal.once, hsplit, List.length_append, List.length_cons] at hle
    have hnone : times (entries ++ rest) = [] := by
      refine List.eq_nil_of_length_eq_zero ?_
      rw [times_append, List.length_append]
      omega
    exact fun other => not_mem_of_times_eq_nil hnone
  · obtain ⟨htimely, hgoal⟩ := htimed.waiting goal since hprogress
    obtain rfl := hgoal hphase
    have hresolved : t.timeIsResolved = true := htimely
    have honce := htimed.journal.once
    rw [hresolved] at honce
    obtain ⟨time, htime⟩ := List.length_eq_one_iff.1 honce
    exact ⟨time, mem_times.1 (by rw [htime]; exact List.mem_singleton_self _)⟩

/-! ## A sample -/

namespace Crowded

open Simulation

/-- A PAT: the PMT of programme 2 is on the PID of the time tables. -/
def pat : Bytes :=
  [0x00, 0xb0, 0x15, 0x00, 0x01, 0xc1, 0x00, 0x00, 0x00, 0x00, 0xe0, 0x10, 0x00, 0x01, 0xe1, 0x00,
    0x00, 0x02, 0xe0, 0x14, 0x00, 0x00, 0x00, 0x00]

/-- Hardware that sends all that is looked for with programme 1. -/
def hardware : Hardware :=
  { script :=
    { canned := [
        { pid := 0x0000, tableId := 0x00, bytes := pat },
        { pid := 0x0100, tableId := 0x02, bytes := Sample.pmt₁ },
        { pid := 0x0014, tableId := 0x70, bytes := LocalTime.Sample.tdtSection },
        { pid := 0x0014, tableId := 0x73, bytes := LocalTime.Sample.totSection }]
      lockStatuses := [.locked] } }

/-- A receiver in Serbia. -/
def serbia : Config := { countryCode := some "SRB" }

/-- The session that has delivered the local time. -/
def resolved : Session Hardware := (start serbia hardware).takeSteps Simulation.devices 6

/-- The session that then goes on to programme 2. -/
def changed : Session Hardware :=
  (resolved.deliver (.request .up)).takeSteps Simulation.devices 1

theorem reachable_changed : Reachable Simulation.devices serbia changed :=
  ⟨hardware, (run_takeSteps _ _ 6).trans (.head (.deliver _ _) (run_takeSteps _ _ 1))⟩

/-- It is 01:20 of 24 September 2009. -/
def time : ResolvedTime := ⟨⟨2009, 9, 24⟩, 1, 20, 0, 0⟩

theorem journal_changed : changed.journal =
    changed.journal.take 36 ++ .event (.timeResolved time) :: changed.journal.drop 37 := by
  decide +kernel

end Crowded

open Crowded in
theorem timeOnce_of_crowded :
    ∃ t : Session Simulation.Hardware, Reachable Simulation.devices serbia t ∧
      t.journal = t.journal.take 36 ++ .event (.timeResolved time) :: t.journal.drop 37 ∧
      (∀ entries time rest, t.journal = entries ++ .event (.timeResolved time) :: rest →
        (∀ other, .event (.timeResolved other) ∉ entries ++ rest) ∧
        (∃ s u, Reachable Simulation.devices serbia s ∧ s.step? Simulation.devices = some u ∧
          s.journal <+: entries ∧ entries ++ [.event (.timeResolved time)] <+: u.journal ∧
          s.DeliversTime entries time) ∧
        ∀ entry ∈ rest, entry.SeeksService t.services) ∧
      (∀ goal since, t.progress = .waiting goal since → t.queue = [] → t.phase = .streamsBound →
        ∃ time, .event (.timeResolved time) ∈ t.journal) :=
  ⟨changed, reachable_changed, journal_changed,
    timeOnce_of_reachable Simulation.devices reachable_changed⟩

open Crowded in
/-- So a filter may be programmed on the PID of the time tables after the local time has been
delivered: for a PMT. -/
theorem not_never_timePid :
    ¬∀ (config : Config) (t : Session Simulation.Hardware) (entries rest : List Entry)
      (time : ResolvedTime), Reachable Simulation.devices config t →
      t.journal = entries ++ .event (.timeResolved time) :: rest →
      ∀ tableId result, .event (.setFilter timePid tableId result) ∉ rest := by
  intro hnever
  refine hnever serbia changed _ _ time reachable_changed journal_changed TableKind.pmt.tableId
    (.ok ⟨5⟩) ?_
  decide +kernel

end Session

end DvbReceiver
