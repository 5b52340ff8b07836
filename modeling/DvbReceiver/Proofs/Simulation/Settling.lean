import DvbReceiver.Proofs.Session.Runs
import DvbReceiver.Simulation.Script

/-!
# Settling on reliable hardware

On scripted hardware of which no call fails, each function of the session has one outcome, and a
filter for a table that the script sends brings just that table. So a session that looks for one
goes on by itself:

* `settle_awaitTable`: it programs the filter, takes up the table, and goes on from there
  (`Session.sought`);
* `bindStreams_eq`: it replaces the streams by those of a PMT (`Session.bound`);
* `settle_of_statuses`: lock statuses that it does not wait for are passed over.
-/

namespace DvbReceiver

open Journal

theorem Journal.events_map_event (calls : List Event) : events (calls.map .event) = calls := by
  induction calls with
  | nil => rfl
  | cons event calls ih => exact congrArg (event :: ·) ih

theorem Journal.events_map_queued (signals : List Signal) :
    events (signals.map .queued) = [] := by
  simp [events, List.filterMap_eq_nil_iff, Entry.event?]

theorem Journal.queued_map_queued (signals : List Signal) :
    queued (signals.map .queued) = signals := by
  induction signals with
  | nil => rfl
  | cons signal signals ih => exact congrArg (signal :: ·) ih

namespace Session

theorem events_take {σ : Type} (s : Session σ) (signal : Signal) (rest : List Signal) :
    (s.take signal rest).events = s.events :=
  (Journal.events_append _ [.took signal]).trans (List.append_nil _)

theorem events_enter {σ : Type} (s : Session σ) (phase : Phase) :
    (s.enter phase).events = s.events :=
  (Journal.events_append _ [.entered phase]).trans (List.append_nil _)

/-- The session after signals have been passed over. -/
def passOver {σ : Type} (s : Session σ) (signals rest : List Signal) : Session σ :=
  { s with queue := rest, journal := s.journal ++ signals.map .took }

theorem events_passOver {σ : Type} (s : Session σ) (signals rest : List Signal) :
    (s.passOver signals rest).events = s.events := by
  have hnone : Journal.events (signals.map .took) = [] := by
    simp [Journal.events, List.filterMap_eq_nil_iff, Entry.event?]
  exact (Journal.events_append _ _).trans (by rw [hnone, List.append_nil]; rfl)

section Settle

variable {σ : Type} (devices : Devices σ) [devices.Undisturbed] {s : Session σ}

/-- A session that takes a signal that meets its goal settles as one that goes on with it. -/
theorem settle_of_met? {goal : Goal} {since : Nat} {signal : Signal} {rest : List Signal}
    {arrival : Arrival} (hprogress : s.progress = .waiting goal since)
    (hqueue : s.queue = signal :: rest)
    (hmet : goal.met? s.registry s.mark signal = some arrival) :
    s.settle devices = ((s.take signal rest).proceed devices arrival).settle devices := by
  rw [settle_of_step? devices (step?_of_cons devices hprogress hqueue), react_of_met? devices hmet]

/-- With nothing to take, a session that waits for requests is settled. -/
theorem settle_of_request {since : Nat} (hprogress : s.progress = .waiting .request since)
    (hqueue : s.queue = []) : s.settle devices = s := by
  refine settle_of_step?_eq_none devices ?_
  rw [step?, hprogress, hqueue]
  rfl

/-- A lock status that is not waited for is passed over. -/
theorem settle_of_status {goal : Goal} {since : Nat} {status : LockStatus} {rest : List Signal}
    (hprogress : s.progress = .waiting goal since) (hqueue : s.queue = .tunerStatus status :: rest)
    (hstatus : goal = .locked → status = .notLocked) :
    s.settle devices = (s.take (.tunerStatus status) rest).settle devices := by
  rw [settle_of_step? devices (step?_of_cons devices hprogress hqueue), react]
  have hmet : goal.met? s.registry s.mark (.tunerStatus status) = none := by
    unfold Goal.met?
    split <;> simp_all
  rw [show goal.met? (s.take (.tunerStatus status) rest).registry
    (s.take (.tunerStatus status) rest).mark (.tunerStatus status) = none from hmet]

/-- Lock statuses that are not waited for are passed over. -/
theorem settle_of_statuses {goal : Goal} {since : Nat} {statuses : List LockStatus}
    {rest : List Signal} (hprogress : s.progress = .waiting goal since)
    (hqueue : s.queue = statuses.map .tunerStatus ++ rest)
    (hstatuses : goal = .locked → .locked ∉ statuses) :
    s.settle devices = (s.passOver (statuses.map .tunerStatus) rest).settle devices := by
  induction statuses generalizing s with
  | nil =>
    rw [List.map_nil, List.nil_append] at hqueue
    rw [passOver, ← hqueue, List.map_nil, List.map_nil, List.append_nil]
  | cons status statuses ih =>
    have hstatus : goal = .locked → status = .notLocked := fun hgoal => by
      cases status with
      | notLocked => rfl
      | locked => exact absurd List.mem_cons_self (hstatuses hgoal)
    have hrest := ih (s := s.take (.tunerStatus status) (statuses.map .tunerStatus ++ rest))
      hprogress rfl fun hgoal hmem => hstatuses hgoal (List.mem_cons_of_mem _ hmem)
    refine (settle_of_status devices hprogress hqueue hstatus).trans (hrest.trans ?_)
    simp [passOver, take, record]

end Settle

end Session

namespace Pmt

/-- The call for a stream, if there is one, with the number that it gets. -/
def creation (stream : Option Stream) (number : Nat) : List Event :=
  (stream.bind fun found => found.codec?.map fun codec =>
    Event.createStream found.pid codec (.ok ⟨number⟩)).toList

/-- The calls for the first video stream and the first audio stream, where so many streams have been
created before. -/
def creations (pmt : Pmt) (streams : Nat) : List Event :=
  creation pmt.firstVideo? (streams + 1) ++
    creation pmt.firstAudio? (streams + pmt.firstVideo?.toList.length + 1)

/-- What is held while the streams of the PMT are played, beside a filter, where so many streams
have been created before. -/
def holdings (pmt : Pmt) (filter : Option FilterHandle) (streams : Nat) : Holdings where
  filter
  video := pmt.firstVideo?.map fun _ => ⟨streams + 1⟩
  audio := pmt.firstAudio?.map fun _ => ⟨streams + pmt.firstVideo?.toList.length + 1⟩
  sourceOpen := true
  tunerEngaged := true

end Pmt

/-! ## Reliable scripts -/

namespace Simulation

open Session

/-- No call fails. -/
structure Script.Reliable (script : Script) : Prop where
  lockFailures : script.lockFailures = []
  openFailures : script.openFailures = []
  filterFailures : script.filterFailures = []
  streamFailures : script.streamFailures = []

/-- Exactly one section is sent to a filter on the PID for tables of this kind, and it is the
table's. -/
def Script.Sends (script : Script) (pid : Nat) (table : Table) : Prop :=
  ∃ canned, script.canned.filter
      (fun canned => canned.pid = pid ∧ canned.tableId = table.kind.tableId) = [canned] ∧
    Table.ofSection? canned.bytes = some (.ok table)

variable {s : Session Hardware} {pid : Nat} {table : Table} {goal : Goal}

/-! ### Giving back -/

theorem freeFilter_eq (s : Session Hardware) :
    s.freeFilter devices =
      { s with
        held.filter := none
        journal := s.journal ++ s.held.filterRelease.map .event } := by
  unfold freeFilter Holdings.filterRelease
  rcases hfilter : s.held.filter with _ | handle
  · simp only [Option.toList_none, List.map_nil, List.append_nil]
    rw [← hfilter]
  · simp [absorb, record, devices]

theorem removeVideo_eq (s : Session Hardware) :
    s.removeVideo devices =
      { s with
        held.video := none
        journal := s.journal ++ s.held.videoRelease.map .event } := by
  unfold removeVideo Holdings.videoRelease
  rcases hvideo : s.held.video with _ | handle
  · simp only [Option.toList_none, List.map_nil, List.append_nil]
    rw [← hvideo]
  · simp [absorb, record, devices]

theorem removeAudio_eq (s : Session Hardware) :
    s.removeAudio devices =
      { s with
        held.audio := none
        journal := s.journal ++ s.held.audioRelease.map .event } := by
  unfold removeAudio Holdings.audioRelease
  rcases haudio : s.held.audio with _ | handle
  · simp only [Option.toList_none, List.map_nil, List.append_nil]
    rw [← haudio]
  · simp [absorb, record, devices]

end Simulation

/-! ## Looking for a table -/

namespace Session

open Simulation

variable {s : Session Hardware} {pid : Nat} {table : Table}

/-- The session after it has programmed a filter and been sent the table. -/
def sent (s : Session Hardware) (pid : Nat) (table : Table) (goal : Goal) : Session Hardware :=
  { s with
    hardware.filters := s.hardware.filters + 1
    registry := s.registry.store table
    queue := s.queue ++ [.tableArrived table.kind]
    progress := .waiting goal s.clock
    held.filter := some ⟨s.hardware.filters + 1⟩
    mark := s.registry.sequence
    journal := s.journal ++ s.held.filterRelease.map .event ++
      [.event (.setFilter pid table.kind.tableId (.ok ⟨s.hardware.filters + 1⟩)), .stored table,
        .queued (.tableArrived table.kind)] }

theorem deliver_arrived (hlive : s.outcome? = none) {bytes : Bytes}
    (hbytes : Table.ofSection? bytes = some (.ok table)) :
    s.deliver (.arrived bytes) = s.hear [.stored table, .queued (.tableArrived table.kind)] := by
  rw [deliver, receive, hbytes]
  refine (post_eq_hear (by exact hlive) _).trans ?_
  simp [hear, record, tables, queued, Entry.table?, Entry.queued?, List.filterMap_cons]

theorem awaitTable_eq (hreliable : s.hardware.script.Reliable)
    (hsends : s.hardware.script.Sends pid table) (hlive : s.outcome? = none) (goal : Goal) :
    s.awaitTable devices pid table.kind goal = s.sent pid table goal := by
  obtain ⟨canned, hcanned, htable⟩ := hsends
  have hreply : devices.setFilter pid table.kind.tableId s.hardware =
      { result := .ok ⟨s.hardware.filters + 1⟩
        delivered := [.arrived canned.bytes]
        hardware := { s.hardware with filters := s.hardware.filters + 1 } } := by
    show s.hardware.setFilter pid table.kind.tableId = _
    rw [Hardware.setFilter, hreliable.filterFailures, List.find?_nil]
    simp only
    rw [hcanned]
    rfl
  unfold awaitTable
  rw [freeFilter_eq]
  simp only [hreply, absorb, List.foldl_cons, List.foldl_nil]
  rw [deliver_arrived (by exact hlive) htable]
  simp [sent, record, hear, await, tables, queued, Entry.table?, Entry.queued?,
    List.filterMap_cons]

/-- What is sent to a new filter is fresh. -/
theorem fresh?_sent (s : Session Hardware) (pid : Nat) (table : Table) (goal : Goal) :
    (s.sent pid table goal).registry.fresh? table.kind (s.sent pid table goal).mark =
      some table := by
  simp only [sent, Registry.fresh?_store, if_true, Nat.le_refl]

theorem events_sent (s : Session Hardware) (pid : Nat) (table : Table) (goal : Goal) :
    (s.sent pid table goal).events = s.events ++ s.held.filterRelease ++
      [.setFilter pid table.kind.tableId (.ok ⟨s.hardware.filters + 1⟩)] := by
  unfold sent
  rw [events, ← Journal.events, Journal.events_append, Journal.events_append,
    Journal.events_map_event]
  rfl

/-- The session after it has looked for a table with an empty queue, been sent it, and taken its
arrival. -/
def sought (s : Session Hardware) (pid : Nat) (table : Table) (goal : Goal) : Session Hardware :=
  (s.sent pid table goal).take (.tableArrived table.kind) []

theorem events_sought (s : Session Hardware) (pid : Nat) (table : Table) (goal : Goal) :
    (s.sought pid table goal).events = s.events ++ s.held.filterRelease ++
      [.setFilter pid table.kind.tableId (.ok ⟨s.hardware.filters + 1⟩)] := by
  rw [sought, events_take, events_sent]

/-- A session that looks for a table that is sent goes on with it. -/
theorem settle_awaitTable {goal : Goal} (arrival : Arrival)
    (hreliable : s.hardware.script.Reliable) (hsends : s.hardware.script.Sends pid table)
    (hlive : s.outcome? = none) (hqueue : s.queue = [])
    (hmet : ∀ registry mark, registry.fresh? table.kind mark = some table →
      goal.met? registry mark (.tableArrived table.kind) = some arrival) :
    (s.awaitTable devices pid table.kind goal).settle devices =
      ((s.sought pid table goal).proceed devices arrival).settle devices := by
  rw [awaitTable_eq hreliable hsends hlive]
  refine settle_of_met? devices rfl ?_ (hmet _ _ (fresh?_sent s pid table goal))
  rw [sent, hqueue, List.nil_append]

/-! ## The tuner and the source -/

theorem foldl_deliver_status (hlive : s.outcome? = none) (statuses : List LockStatus) :
    (statuses.map .status).foldl deliver s =
      s.hear ((statuses.map Signal.tunerStatus).map .queued) := by
  induction statuses generalizing s with
  | nil => exact (hear_nil s).symm
  | cons status statuses ih =>
    rw [List.map_cons, List.foldl_cons, deliver, post_eq_hear hlive, ih (by exact hlive), hear_hear]
    rfl

theorem begin_eq (hreliable : s.hardware.script.Reliable) (hlive : s.outcome? = none) :
    s.begin devices =
      { ((s.enter .tunerLocking).record (.event (.lock s.config.toTuning (.ok ())))).hear
          ((s.hardware.script.lockStatuses.map Signal.tunerStatus).map .queued) with
        held.tunerEngaged := true }.await .locked := by
  have hreply : devices.lock s.config.toTuning s.hardware =
      { result := .ok ()
        delivered := s.hardware.script.lockStatuses.map .status
        hardware := s.hardware } := by
    show s.hardware.lock = _
    rw [Hardware.lock, hreliable.lockFailures]
    rfl
  unfold begin
  simp only [hreply, absorb, enter, record]
  rw [foldl_deliver_status (by exact hlive)]

/-- The session after it has opened the source. -/
def opened (s : Session Hardware) : Session Hardware :=
  { (s.enter .awaitingPat).record (.event (.openSource (.ok ()))) with held.sourceOpen := true }

theorem events_opened (s : Session Hardware) :
    s.opened.events = s.events ++ [.openSource (.ok ())] := by
  simp [opened, events, enter, record, List.filterMap_cons, Entry.event?]

theorem findPat_eq {pat : Pat} (hreliable : s.hardware.script.Reliable)
    (hsends : s.hardware.script.Sends patPid (.pat pat)) (hlive : s.outcome? = none) :
    s.findPat devices = s.opened.sent patPid (.pat pat) .pat := by
  have hreply : devices.openSource s.hardware = { result := .ok (), hardware := s.hardware } := by
    show s.hardware.openSource = _
    rw [Hardware.openSource, hreliable.openFailures]
    rfl
  unfold findPat
  simp only [hreply, absorb, enter, record, List.foldl_nil]
  have hsent := awaitTable_eq (s := s.opened) hreliable hsends hlive .pat
  exact hsent

/-! ## Binding streams -/

theorem createStream_eq (hreliable : s.hardware.script.Reliable) {stream : Option Pmt.Stream}
    (hcodec : ∀ found, stream = some found → found.codec?.isSome) :
    s.createStream devices stream =
      (.ok (stream.map fun found => (found.pid, ⟨s.hardware.streams + 1⟩)),
        { s with
          hardware.streams := s.hardware.streams + stream.toList.length
          journal := s.journal ++
            (Pmt.creation stream (s.hardware.streams + 1)).map .event }) := by
  rcases stream with _ | found
  · simp [createStream, Pmt.creation]
  obtain ⟨codec, hfound⟩ := Option.isSome_iff_exists.1 (hcodec found rfl)
  have hreply : devices.createStream found.pid codec s.hardware =
      { result := .ok ⟨s.hardware.streams + 1⟩
        hardware := { s.hardware with streams := s.hardware.streams + 1 } } := by
    show s.hardware.createStream found.pid codec = _
    rw [Hardware.createStream, hreliable.streamFailures]
    rfl
  simp [createStream, Pmt.creation, hfound, hreply, absorb, record, Except.map]

/-- The session after it has bound the streams of a PMT and shown its channel. -/
def bound (s : Session Hardware) (pmt : Pmt) : Session Hardware :=
  { s with
    hardware.streams :=
      s.hardware.streams + pmt.firstVideo?.toList.length + pmt.firstAudio?.toList.length
    phase := .streamsBound
    channel := some pmt.channel
    held := { s.held with
      video := pmt.firstVideo?.map fun _ => ⟨s.hardware.streams + 1⟩
      audio := pmt.firstAudio?.map fun _ =>
        ⟨s.hardware.streams + pmt.firstVideo?.toList.length + 1⟩ }
    journal := s.journal ++
      (s.held.videoRelease ++ s.held.audioRelease ++ pmt.creations s.hardware.streams).map .event ++
        [.entered .streamsBound, .event (.channelBound pmt.channel)] }

theorem bindStreams_eq (hreliable : s.hardware.script.Reliable) (pmt : Pmt) :
    s.bindStreams devices pmt =
      if s.timeIsResolved then (s.bound pmt).await .request else (s.bound pmt).findTdt devices := by
  rw [bindStreams, removeVideo_eq, removeAudio_eq, bindVideo,
    createStream_eq (by exact hreliable) fun _ => Pmt.isSome_codec?_of_firstVideo?]
  simp only [bindAudio]
  rw [createStream_eq (by exact hreliable) fun _ => Pmt.isSome_codec?_of_firstAudio?]
  simp only [announce, enter, record, bound, Pmt.channel, Pmt.creations, Holdings.audioRelease,
    Option.map_map, Function.comp_def, List.map_append, List.append_assoc, List.cons_append,
    List.nil_append]

theorem bindStreams_of_resolved (hreliable : s.hardware.script.Reliable)
    (hresolved : s.timeIsResolved = true) (pmt : Pmt) :
    s.bindStreams devices pmt = (s.bound pmt).await .request := by
  rw [bindStreams_eq hreliable, if_pos hresolved]

theorem bindStreams_of_unresolved (hreliable : s.hardware.script.Reliable)
    (hunresolved : s.timeIsResolved = false) (pmt : Pmt) :
    s.bindStreams devices pmt = (s.bound pmt).findTdt devices := by
  rw [bindStreams_eq hreliable, if_neg (by simp [hunresolved])]

theorem events_bound (s : Session Hardware) (pmt : Pmt) :
    (s.bound pmt).events = s.events ++ s.held.videoRelease ++ s.held.audioRelease ++
      pmt.creations s.hardware.streams ++ [.channelBound pmt.channel] := by
  unfold bound
  rw [events, ← Journal.events, Journal.events_append, Journal.events_append,
    Journal.events_map_event]
  simp only [← List.append_assoc]
  rfl

/-! ## The local time -/

/-- The session after it has delivered the local time. -/
def timed (s : Session Hardware) (time : ResolvedTime) : Session Hardware :=
  { s with
    progress := .waiting .request s.clock
    phase := .timeResolved
    timeIsResolved := true
    held.filter := none
    journal := s.journal ++ s.held.filterRelease.map .event ++
      [.entered .timeResolved, .event (.timeResolved time)] }

theorem resolveTime_eq (s : Session Hardware) (utc : DateTime) (capturedAt : Int) (tot : Tot) :
    s.resolveTime devices utc capturedAt tot =
      s.timed (.ofLocal (LocalTime.resolve utc (some tot) s.config.countryCode) capturedAt) := by
  rw [resolveTime, freeFilter_eq]
  simp only [enter, record, await, timed, List.append_assoc, List.cons_append, List.nil_append]

theorem events_timed (s : Session Hardware) (time : ResolvedTime) :
    (s.timed time).events = s.events ++ s.held.filterRelease ++ [.timeResolved time] := by
  unfold timed
  rw [events, ← Journal.events, Journal.events_append, Journal.events_append,
    Journal.events_map_event]
  rfl

end Session

end DvbReceiver
