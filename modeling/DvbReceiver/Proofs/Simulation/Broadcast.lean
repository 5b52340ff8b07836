import DvbReceiver.Proofs.LocalTime
import DvbReceiver.Proofs.Session.Requests
import DvbReceiver.Proofs.Simulation.Settling

/-!
# A complete broadcast

A `Broadcast` is a script in which no call fails and everything is sent that a session looks for:
a PAT with services, a PMT for each of them, a TDT and a TOT. On such hardware a session finds all
of it by itself, whatever its settings are, and every channel change that follows leads to the
streams of the service that it selects (`acquires`).

The proof follows the session from wait to wait. In each the table has been sent from inside the
call that programmed the filter, so the queue is never empty before the session rests, and no limit
matters.
-/

namespace DvbReceiver

open Journal Session

namespace Simulation

/-- A script that sends all that a session looks for, with what it sends. -/
structure Broadcast where
  script : Script
  pat : Pat
  /-- The PMT of the service with an index. -/
  pmt : Nat → Pmt
  tdt : Tdt
  utc : DateTime
  tot : Tot
  reliable : script.Reliable
  locks : .locked ∈ script.lockStatuses
  sends_pat : script.Sends patPid (.pat pat)
  two_le_serviceCount : 2 ≤ pat.serviceCount
  sends_pmt : ∀ index service, Channel.first ≤ index → pat.service? index = some service →
    script.Sends service.pid (.pmt (pmt index)) ∧ (pmt index).programNumber = service.programNumber
  sends_tdt : script.Sends timePid (.tdt tdt)
  utc?_eq : tdt.utc? = some utc
  sends_tot : script.Sends timePid (.tot tot)

/-- The session after a channel request, once it has settled again, as in a scenario. -/
def zap (s : Session Hardware) (request : ChannelRequest) : Session Hardware :=
  (s.request request).2.settle devices

/-! ## A sample -/

namespace Sample

/-- What `pmt₂` decodes to. -/
def programme₂ : Pmt where
  header :=
    { tableId := 0x02
      sectionSyntaxIndicator := true
      sectionLength := 18
      tableIdExtension := 2
      versionNumber := 0
      currentNextIndicator := true
      sectionNumber := 0
      lastSectionNumber := 0
      pcrPid := 0x101
      programInfoLength := 0 }
  streams := ⟨[⟨0x02, 0x201, 0⟩], by decide⟩

/-- The programmes 1 and 2 with the local time, on a tuner that locks late. -/
def broadcast : Broadcast where
  script :=
    { canned :=
        [{ pid := 0x0000, tableId := 0x00, bytes := pat },
          { pid := 0x100, tableId := 0x02, bytes := pmt₁ },
          { pid := 0x200, tableId := 0x02, bytes := pmt₂ },
          { pid := 0x0014, tableId := 0x70, bytes := LocalTime.Sample.tdtSection },
          { pid := 0x0014, tableId := 0x73, bytes := LocalTime.Sample.totSection }]
      lockStatuses := [.notLocked, .locked, .notLocked] }
  pat := programmes
  pmt index := if index = 1 then programme₁ else programme₂
  tdt := LocalTime.Sample.tdt
  utc := ⟨⟨2009, 9, 23⟩, 3600 * 23 + 60 * 50, 0⟩
  tot := LocalTime.Sample.tot
  reliable := ⟨rfl, rfl, rfl, rfl⟩
  locks := by decide
  sends_pat := ⟨_, rfl, by decide +kernel⟩
  two_le_serviceCount := by decide
  sends_pmt
    | 0, _, hfirst, _ => by cases hfirst
    | 1, _, _, rfl => ⟨⟨_, rfl, ofSection?_pmt₁⟩, rfl⟩
    | 2, _, _, rfl => ⟨⟨_, rfl, by decide +kernel⟩, rfl⟩
    | index + 3, _, _, h => by cases h
  sends_tdt := ⟨_, rfl, by decide +kernel⟩
  utc?_eq := by decide +kernel
  sends_tot := ⟨_, rfl, by decide +kernel⟩

/-- Settings for Serbia with limits of 0, to begin with the second programme. -/
def impatient : Config where
  tableTimeout := 0
  countryCode := some "srb"
  initialChannel := 2

end Sample

namespace Broadcast

variable (b : Broadcast) {s : Session Hardware} {service : Pat.Service}

/-! ## Tuning to a service -/

/-- The session on reliable hardware, with the services of the PAT and one of them selected. -/
structure Tunes (s : Session Hardware) (service : Pat.Service) : Prop where
  script : s.hardware.script = b.script
  services : s.services = b.pat.services.items
  first_le : Channel.first ≤ s.index
  service : b.pat.service? s.index = some service
  live : s.outcome? = none
  queue : s.queue = []

/-- The session after it has found the PMT and bound the streams. -/
def tuned (s : Session Hardware) (pid : Nat) (pmt : Pmt) : Session Hardware :=
  ((s.enter .awaitingPmt).sought pid (.pmt pmt) (.pmt pmt.programNumber)).bound pmt

/-- The calls with which a session goes over to the streams of a service, and what it shows then. -/
def tuning (s : Session Hardware) (pid : Nat) (pmt : Pmt) : List Event :=
  s.held.filterRelease ++ [.setFilter pid TableKind.pmt.tableId (.ok ⟨s.hardware.filters + 1⟩)] ++
    s.held.videoRelease ++ s.held.audioRelease ++ pmt.creations s.hardware.streams ++
    [.channelBound pmt.channel]

theorem events_tuned (s : Session Hardware) (pid : Nat) (pmt : Pmt) :
    (tuned s pid pmt).events = s.events ++ tuning s pid pmt := by
  rw [tuned, events_bound, events_sought, events_enter]
  simp only [tuning, ← List.append_assoc]
  rfl

theorem held_tuned (hopen : s.held.sourceOpen = true) (hengaged : s.held.tunerEngaged = true)
    (pid : Nat) (pmt : Pmt) :
    (tuned s pid pmt).held =
      pmt.holdings (some ⟨s.hardware.filters + 1⟩) s.hardware.streams := by
  show Holdings.mk _ _ _ s.held.sourceOpen s.held.tunerEngaged = _
  rw [hopen, hengaged]
  rfl

theorem filters_tuned (s : Session Hardware) (pid : Nat) (pmt : Pmt) :
    (tuned s pid pmt).hardware.filters = s.hardware.filters + 1 := rfl

/-- The session after it has found the TDT and the TOT and delivered the local time. -/
def dated (s : Session Hardware) (time : ResolvedTime) : Session Hardware :=
  (((s.enter .awaitingTdt).sought timePid (.tdt b.tdt) .tdt).enter .awaitingTot |>.sought timePid
    (.tot b.tot) (.tot b.utc (1000000 * s.clock))).timed time

theorem events_dated (s : Session Hardware) (time : ResolvedTime) :
    (b.dated s time).events = s.events ++ s.held.filterRelease ++
      [.setFilter timePid TableKind.tdt.tableId (.ok ⟨s.hardware.filters + 1⟩),
        .freeFilter ⟨s.hardware.filters + 1⟩,
        .setFilter timePid TableKind.tot.tableId (.ok ⟨s.hardware.filters + 2⟩),
        .freeFilter ⟨s.hardware.filters + 2⟩, .timeResolved time] := by
  rw [dated, events_timed, events_sought, events_enter, events_sought, events_enter]
  simp only [List.append_assoc]
  rfl

theorem settle_findPmt (h : b.Tunes s service) :
    (s.findPmt devices).settle devices =
      (((s.enter .awaitingPmt).sought service.pid (.pmt (b.pmt s.index))
        (.pmt (b.pmt s.index).programNumber)).bindStreams devices (b.pmt s.index)).settle
          devices := by
  obtain ⟨hsends, hnumber⟩ := b.sends_pmt s.index service h.first_le h.service
  have hservice : s.services[s.index]? = some service := by
    rw [h.services]
    exact h.service
  rw [findPmt, hservice]
  simp only
  rw [← hnumber]
  have hreliable : (s.enter .awaitingPmt).hardware.script.Reliable := h.script ▸ b.reliable
  have hsends' : (s.enter .awaitingPmt).hardware.script.Sends service.pid (.pmt (b.pmt s.index)) :=
    h.script ▸ hsends
  have hsought := settle_awaitTable (.pmt (b.pmt s.index)) hreliable hsends' h.live h.queue
    fun _ _ hfresh => Goal.met?_pmt hfresh
  exact hsought

/-- With the local time resolved, the session then rests. -/
theorem settle_findPmt_of_resolved (h : b.Tunes s service) (hresolved : s.timeIsResolved = true) :
    (s.findPmt devices).settle devices =
      (tuned s service.pid (b.pmt s.index)).await .request := by
  rw [b.settle_findPmt h, bindStreams_of_resolved]
  · exact settle_of_request devices rfl rfl
  · exact h.script ▸ b.reliable
  · exact hresolved

theorem settle_awaitTdt (hscript : s.hardware.script = b.script) (hlive : s.outcome? = none)
    (hqueue : s.queue = []) :
    (s.awaitTable devices timePid .tdt .tdt).settle devices =
      ((s.sought timePid (.tdt b.tdt) .tdt).proceed devices (.tdt b.utc)).settle devices := by
  have hreliable : s.hardware.script.Reliable := hscript ▸ b.reliable
  have hsends : s.hardware.script.Sends timePid (.tdt b.tdt) := hscript ▸ b.sends_tdt
  exact settle_awaitTable _ hreliable hsends hlive hqueue
    fun _ _ hfresh => Goal.met?_tdt hfresh b.utc?_eq

theorem settle_awaitTot (hscript : s.hardware.script = b.script) (hlive : s.outcome? = none)
    (hqueue : s.queue = []) (utc : DateTime) (capturedAt : Int) :
    (s.awaitTable devices timePid .tot (.tot utc capturedAt)).settle devices =
      ((s.sought timePid (.tot b.tot) (.tot utc capturedAt)).proceed devices
        (.tot utc capturedAt b.tot)).settle devices := by
  have hreliable : s.hardware.script.Reliable := hscript ▸ b.reliable
  have hsends : s.hardware.script.Sends timePid (.tot b.tot) := hscript ▸ b.sends_tot
  exact settle_awaitTable _ hreliable hsends hlive hqueue
    fun _ _ hfresh => Goal.met?_tot hfresh

/-- Otherwise the session goes on to the local time, delivers it, and rests. -/
theorem settle_findPmt_of_unresolved (h : b.Tunes s service)
    (hunresolved : s.timeIsResolved = false) :
    (s.findPmt devices).settle devices =
      b.dated (tuned s service.pid (b.pmt s.index))
        (.ofLocal (LocalTime.resolve b.utc (some b.tot) s.config.countryCode)
          (1000000 * s.clock)) := by
  rw [b.settle_findPmt h, bindStreams_of_unresolved]
  · rw [findTdt]
    refine (b.settle_awaitTdt (by exact h.script) rfl rfl).trans ?_
    rw [proceed, findTot]
    refine (b.settle_awaitTot (by exact h.script) rfl rfl _ _).trans ?_
    rw [proceed, resolveTime_eq]
    exact settle_of_request devices rfl rfl
  · exact h.script ▸ b.reliable
  · exact hunresolved

/-! ## Up to the PAT -/

/-- The session has locked the tuner, and has nothing else so far. Lock statuses may be left. -/
structure Locked (config : Config) (s : Session Hardware) : Prop where
  settings : s.config = config
  hardware : s.hardware = { script := b.script }
  clock : s.clock = 0
  queue : ∃ statuses : List LockStatus, s.queue = statuses.map .tunerStatus
  live : s.outcome? = none
  deferred : s.deferred = []
  unresolved : s.timeIsResolved = false
  held : s.held = { tunerEngaged := true }
  events : s.events = [.subscribedToSections, .subscribedToLock, .lock config.toTuning (.ok ())]

theorem exists_settle_start (config : Config) :
    ∃ s, (start config { script := b.script }).settle devices = (s.findPat devices).settle devices ∧
      b.Locked config s := by
  obtain ⟨before, after, hstatuses, hbefore⟩ := List.eq_append_cons_of_mem b.locks
  have hbegin := begin_eq (s := start config { script := b.script }) b.reliable rfl
  have hstep : (start config { script := b.script }).step? devices =
      some ((start config { script := b.script }).begin devices) := rfl
  rw [settle_of_step? devices hstep, hbegin]
  generalize hlocking : Session.await _ _ = locking
  have hprogress : locking.progress = .waiting .locked 0 := by rw [← hlocking]; rfl
  have hqueue : locking.queue =
      before.map .tunerStatus ++ (.tunerStatus .locked :: after.map .tunerStatus) := by
    rw [← List.map_cons, ← List.map_append, ← hstatuses, ← hlocking]
    exact Journal.queued_map_queued _
  have hevents : locking.events =
      [.subscribedToSections, .subscribedToLock, .lock config.toTuning (.ok ())] := by
    rw [← hlocking]
    refine (Journal.events_append _ _).trans ?_
    rw [Journal.events_map_queued]
    rfl
  -- up to the first lock the statuses are passed over
  refine ⟨(locking.passOver (before.map .tunerStatus)
    (.tunerStatus .locked :: after.map .tunerStatus)).take (.tunerStatus .locked)
      (after.map .tunerStatus), ?_, ?_⟩
  · rw [settle_of_statuses devices hprogress hqueue fun _ => hbefore]
    show _ = ((_ : Session Hardware).proceed devices .locked).settle devices
    exact settle_of_met? devices (by exact hprogress) rfl rfl
  · rw [← hlocking] at hevents ⊢
    exact ⟨rfl, rfl, rfl, ⟨after, rfl⟩, rfl, rfl, rfl, rfl,
      (events_take ..).trans ((events_passOver ..).trans hevents)⟩

/-- The session has the PAT and is about to tune to its first service. -/
structure Adopted (config : Config) (s : Session Hardware) : Prop where
  settings : s.config = config
  hardware : s.hardware = { script := b.script, filters := 1 }
  clock : s.clock = 0
  services : s.services = b.pat.services.items
  index : s.index = Channel.initial b.pat.serviceCount config.initialChannel
  live : s.outcome? = none
  queue : s.queue = []
  unresolved : s.timeIsResolved = false
  held : s.held = { filter := some ⟨1⟩, sourceOpen := true, tunerEngaged := true }
  events : s.events = [.subscribedToSections, .subscribedToLock, .lock config.toTuning (.ok ()),
    .openSource (.ok ()), .setFilter patPid TableKind.pat.tableId (.ok ⟨1⟩)]

theorem exists_settle_findPat {config : Config} (h : b.Locked config s) :
    ∃ t, (s.findPat devices).settle devices = (t.findPmt devices).settle devices ∧
      b.Adopted config t := by
  obtain ⟨statuses, hstatuses⟩ := h.queue
  have hreliable : s.hardware.script.Reliable := by rw [h.hardware]; exact b.reliable
  have hsends : s.hardware.script.Sends patPid (.pat b.pat) := by rw [h.hardware]; exact b.sends_pat
  have hqueue : (s.opened.sent patPid (.pat b.pat) .pat).queue =
      statuses.map .tunerStatus ++ [.tableArrived .pat] := by
    rw [← hstatuses]
    rfl
  have hmet := settle_of_met? devices
    (s := (s.opened.sent patPid (.pat b.pat) .pat).passOver (statuses.map .tunerStatus)
      [.tableArrived .pat]) rfl rfl (Goal.met?_pat (fresh?_sent s.opened patPid (.pat b.pat) .pat))
  have hheld : s.opened.held = { tunerEngaged := true, sourceOpen := true } := by
    simp [opened, enter, record, h.held]
  have hhardware : s.opened.hardware = { script := b.script } := h.hardware
  have hevents : (s.opened.sent patPid (.pat b.pat) .pat).events = [.subscribedToSections,
      .subscribedToLock, .lock config.toTuning (.ok ()), .openSource (.ok ()),
      .setFilter patPid TableKind.pat.tableId (.ok ⟨1⟩)] := by
    rw [events_sent, events_opened, hheld, hhardware, h.events]
    rfl
  -- what is left of the lock statuses comes before the PAT and is passed over
  rw [findPat_eq hreliable hsends h.live, settle_of_statuses devices rfl hqueue (by rintro ⟨⟩),
    hmet, proceed, adoptPat_eq devices b.two_le_serviceCount]
  refine ⟨_, rfl, ?_⟩
  exact {
    settings := h.settings
    hardware := by
      show { s.opened.hardware with filters := s.opened.hardware.filters + 1 } = _
      rw [hhardware]
    clock := h.clock
    services := rfl
    index := by
      show s.deferred.foldl _ (Channel.initial _ s.config.initialChannel) = _
      rw [h.deferred, h.settings]
      rfl
    live := rfl
    queue := rfl
    unresolved := h.unresolved
    held := by
      show { s.opened.held with filter := some ⟨s.opened.hardware.filters + 1⟩ } = _
      rw [hheld, hhardware]
    events := (events_take ..).trans ((events_passOver ..).trans hevents) }

/-! ## Up to the local time -/

/-- The session on the broadcast once it has settled. -/
def acquired (config : Config) : Session Hardware :=
  (start config { script := b.script }).settle devices

/-- The session after requests, settled after each. -/
def played (config : Config) (requests : List ChannelRequest) : Session Hardware :=
  requests.foldl zap (b.acquired config)

theorem played_concat (config : Config) (requests : List ChannelRequest)
    (request : ChannelRequest) :
    b.played config (requests ++ [request]) = zap (b.played config requests) request :=
  List.foldl_concat ..

/-- The events up to the local time, where the first service has its PMT on this PID. -/
def acquisition (config : Config) (pid : Nat) (pmt : Pmt) : List Event :=
  [.subscribedToSections, .subscribedToLock, .lock config.toTuning (.ok ()), .openSource (.ok ()),
    .setFilter patPid TableKind.pat.tableId (.ok ⟨1⟩), .freeFilter ⟨1⟩,
    .setFilter pid TableKind.pmt.tableId (.ok ⟨2⟩)] ++
  pmt.creations 0 ++
  [.channelBound pmt.channel, .freeFilter ⟨2⟩,
    .setFilter timePid TableKind.tdt.tableId (.ok ⟨3⟩), .freeFilter ⟨3⟩,
    .setFilter timePid TableKind.tot.tableId (.ok ⟨4⟩), .freeFilter ⟨4⟩,
    .timeResolved (.ofLocal (LocalTime.resolve b.utc (some b.tot) config.countryCode) 0)]

/-- The session plays the service with this index, knows the local time, and rests. -/
structure Plays (index : Nat) (s : Session Hardware) : Prop where
  script : s.hardware.script = b.script
  services : s.services = b.pat.services.items
  bounds : Channel.first ≤ index ∧ index < b.pat.serviceCount
  index_eq : s.index = index
  resolved : s.timeIsResolved = true
  progress : ∃ since, s.progress = .waiting .request since
  queue : s.queue = []
  channel : s.channel = some (b.pmt index).channel
  held : ∃ filter streams, s.held = (b.pmt index).holdings filter streams

theorem exists_service {index : Nat} (h : index < b.pat.serviceCount) :
    ∃ service, b.pat.service? index = some service :=
  ⟨_, List.getElem?_eq_getElem h⟩

theorem Adopted.tunes {config : Config} (h : b.Adopted config s)
    (hservice : b.pat.service? (Channel.initial b.pat.serviceCount config.initialChannel) =
      some service) : b.Tunes s service where
  script := by rw [h.hardware]
  services := h.services
  first_le := by
    rw [h.index]
    exact (Channel.bounds_initial _ b.two_le_serviceCount).1
  service := by rw [h.index, hservice]
  live := h.live
  queue := h.queue

/-- The session takes up the PAT, the PMT of the first service, the TDT and the TOT. -/
theorem exists_acquired (config : Config) :
    ∃ service,
      b.pat.service? (Channel.initial b.pat.serviceCount config.initialChannel) = some service ∧
      b.Plays (Channel.initial b.pat.serviceCount config.initialChannel) (b.acquired config) ∧
      (b.acquired config).phase = .timeResolved ∧
      (b.acquired config).events = b.acquisition config service.pid
        (b.pmt (Channel.initial b.pat.serviceCount config.initialChannel)) := by
  have hbounds := Channel.bounds_initial config.initialChannel b.two_le_serviceCount
  obtain ⟨service, hservice⟩ := b.exists_service hbounds.2
  obtain ⟨locked, hlocked, hslocked⟩ := b.exists_settle_start config
  obtain ⟨s, hs, hadopted⟩ := b.exists_settle_findPat hslocked
  have hacquired := hlocked.trans (hs.trans
    (b.settle_findPmt_of_unresolved (hadopted.tunes b hservice) hadopted.unresolved))
  rw [← acquired, hadopted.index, hadopted.clock, hadopted.settings] at hacquired
  have hopen : s.held.sourceOpen = true := by rw [hadopted.held]
  have hengaged : s.held.tunerEngaged = true := by rw [hadopted.held]
  refine ⟨service, hservice, ?_, by rw [hacquired]; rfl, ?_⟩
  · rw [hacquired]
    exact {
      script := by
        show s.hardware.script = b.script
        rw [hadopted.hardware]
      services := hadopted.services
      bounds := hbounds
      index_eq := hadopted.index
      resolved := rfl
      progress := ⟨_, rfl⟩
      queue := rfl
      channel := rfl
      held := by
        refine ⟨none, s.hardware.streams, ?_⟩
        show { (tuned s _ _).held with filter := none } = _
        rw [held_tuned hopen hengaged]
        rfl }
  · rw [hacquired, events_dated, events_tuned, tuning, held_tuned hopen hengaged, hadopted.events,
      hadopted.held, filters_tuned, hadopted.hardware]
    simp only [acquisition, List.append_assoc]
    rfl

/-! ## Channel requests -/

/-- The session after it has taken a request that was put into its empty queue. -/
def noted (s : Session Hardware) (request : ChannelRequest) : Session Hardware :=
  { s with
    journal := s.journal ++
      [.queued (.channelChange request), .took (.channelChange request)] }

theorem events_noted (s : Session Hardware) (request : ChannelRequest) :
    (noted s request).events = s.events :=
  (Journal.events_append _ [.queued _, .took _]).trans (List.append_nil _)

theorem zap_eq {since : Nat} (hprogress : s.progress = .waiting .request since)
    (hqueue : s.queue = []) (request : ChannelRequest) :
    zap s request =
      match Channel.next? s.index s.services.length request with
      | some index => ({ noted s request with index }.findPmt devices).settle devices
      | none => noted s request := by
  have hposted : (s.request request).2 = s.hear [.queued (.channelChange request)] := by
    rw [Session.request, live_of_waiting hprogress]
    exact post_eq_hear (live_of_waiting hprogress) _
  have hqueue' : (s.hear [.queued (.channelChange request)]).queue =
      [.channelChange request] := by
    rw [hear, hqueue]
    rfl
  have htaken : (s.hear [.queued (.channelChange request)]).take (.channelChange request) [] =
      noted s request := by
    simp [noted, take, hear, record, tables, hqueue, Entry.table?, List.filterMap_cons]
  rw [zap, hposted, settle_of_step? devices (step?_of_cons devices (by exact hprogress) hqueue'),
    htaken]
  show ((noted s request).changeChannel devices .request request).settle devices = _
  rw [changeChannel, if_neg (by simp [Goal.Defers])]
  show Session.settle devices (match Channel.next? s.index s.services.length request with
    | some index => { noted s request with index }.findPmt devices
    | none => noted s request) = _
  rcases Channel.next? s.index s.services.length request with _ | index
  · exact settle_of_request devices (by exact hprogress) hqueue
  · rfl

namespace Plays

variable {b} {index next : Nat} {request : ChannelRequest}

theorem engaged (h : b.Plays index s) : s.held.sourceOpen = true ∧ s.held.tunerEngaged = true := by
  obtain ⟨filter, streams, hheld⟩ := h.held
  rw [hheld]
  exact ⟨rfl, rfl⟩

/-- A request that leads nowhere changes nothing but the journal. -/
theorem zap_of_next?_eq_none (h : b.Plays index s)
    (hnext : Channel.next? index b.pat.serviceCount request = none) :
    zap s request = noted s request := by
  obtain ⟨since, hprogress⟩ := h.progress
  have hcount : s.services.length = b.pat.serviceCount := by rw [h.services, Pat.serviceCount]
  rw [zap_eq hprogress h.queue, h.index_eq, hcount, hnext]

/-- Any other request leads to the streams of a service. -/
theorem zap_of_next? (h : b.Plays index s)
    (hnext : Channel.next? index b.pat.serviceCount request = some next)
    (hservice : b.pat.service? next = some service) :
    zap s request =
      (tuned { noted s request with index := next } service.pid (b.pmt next)).await .request := by
  obtain ⟨since, hprogress⟩ := h.progress
  have hcount : s.services.length = b.pat.serviceCount := by rw [h.services, Pat.serviceCount]
  rw [zap_eq hprogress h.queue, h.index_eq, hcount, hnext]
  have htunes : b.Tunes { noted s request with index := next } service := {
    script := h.script
    services := h.services
    first_le := (Channel.bounds_of_next? h.bounds hnext).1
    service := hservice
    live := live_of_waiting hprogress
    queue := h.queue }
  exact b.settle_findPmt_of_resolved htunes h.resolved

/-- The session plays on, the service that the request leads to. -/
theorem zap (h : b.Plays index s) (request : ChannelRequest) :
    b.Plays (Channel.step b.pat.serviceCount index request) (zap s request) := by
  rcases hnext : Channel.next? index b.pat.serviceCount request with _ | next
  · rw [Channel.step, hnext, h.zap_of_next?_eq_none hnext]
    exact {
      script := h.script
      services := h.services
      bounds := h.bounds
      index_eq := h.index_eq
      resolved := h.resolved
      progress := h.progress
      queue := h.queue
      channel := h.channel
      held := h.held }
  · have hbounds := Channel.bounds_of_next? h.bounds hnext
    obtain ⟨service, hservice⟩ := b.exists_service hbounds.2
    obtain ⟨hopen, hengaged⟩ := h.engaged
    rw [Channel.step, hnext, h.zap_of_next? hnext hservice]
    exact {
      script := h.script
      services := h.services
      bounds := hbounds
      index_eq := rfl
      resolved := h.resolved
      progress := ⟨_, rfl⟩
      queue := rfl
      channel := rfl
      held := ⟨_, _, held_tuned (by exact hopen) (by exact hengaged) _ _⟩ }

end Plays

/-- After requests the session plays the service that they lead to. -/
theorem plays_played (config : Config) (requests : List ChannelRequest) :
    b.Plays (Channel.after b.pat.serviceCount config.initialChannel requests)
      (b.played config requests) := by
  induction requests using List.reverseRecOn with
  | nil =>
    obtain ⟨_, -, hplays, -⟩ := b.exists_acquired config
    exact hplays
  | append_singleton requests request ih =>
    rw [Channel.after_concat, played_concat]
    exact ih.zap request

/-- How a session that plays a service answers a request, and has become `t`: it goes over to the
streams of another service, and gives those before back, or nothing happens. -/
structure Answers (s : Session Hardware) (request : ChannelRequest) (t : Session Hardware) :
    Prop where
  lands : ∀ index, Channel.next? s.index b.pat.serviceCount request = some index →
    ∃ service, b.pat.service? index = some service ∧ t.phase = .streamsBound ∧
      t.held = (b.pmt index).holdings (some ⟨s.hardware.filters + 1⟩) s.hardware.streams ∧
      t.events = s.events ++ tuning s service.pid (b.pmt index)
  stays : Channel.next? s.index b.pat.serviceCount request = none →
    t.phase = s.phase ∧ t.channel = s.channel ∧ t.held = s.held ∧ t.events = s.events

theorem Plays.answers {index : Nat} (h : b.Plays index s) (request : ChannelRequest) :
    b.Answers s request (Simulation.zap s request) where
  lands next hnext := by
    rw [h.index_eq] at hnext
    obtain ⟨service, hservice⟩ := b.exists_service (Channel.bounds_of_next? h.bounds hnext).2
    obtain ⟨hopen, hengaged⟩ := h.engaged
    rw [h.zap_of_next? hnext hservice]
    refine ⟨service, hservice, rfl, held_tuned (by exact hopen) (by exact hengaged) _ _, ?_⟩
    refine (events_tuned _ _ _).trans ?_
    show (noted s request).events ++ _ = _
    rw [events_noted]
    rfl
  stays hnext := by
    rw [h.index_eq] at hnext
    rw [h.zap_of_next?_eq_none hnext]
    exact ⟨rfl, rfl, rfl, events_noted s request⟩

/-- **A complete broadcast is acquired, and every channel request is answered.** -/
theorem acquires (config : Config) :
    (∃ service,
      b.pat.service? (Channel.initial b.pat.serviceCount config.initialChannel) = some service ∧
      (b.acquired config).phase = .timeResolved ∧
      (b.acquired config).events = b.acquisition config service.pid
        (b.pmt (Channel.initial b.pat.serviceCount config.initialChannel))) ∧
    ∀ requests,
      b.Plays (Channel.after b.pat.serviceCount config.initialChannel requests)
        (b.played config requests) ∧
      ∀ request,
        b.Answers (b.played config requests) request (b.played config (requests ++ [request])) := by
  obtain ⟨service, hservice, -, hphase, hevents⟩ := b.exists_acquired config
  refine ⟨⟨service, hservice, hphase, hevents⟩, fun requests => ?_⟩
  have hplays := b.plays_played config requests
  refine ⟨hplays, fun request => ?_⟩
  rw [played_concat]
  exact hplays.answers b request

open Sample in
/-- The second programme is the first to be shown, and has no audio. In Serbia it is 01:20 of the
next day. The request that follows leads to the first programme, and one for a service that is not
there changes nothing. Limits of 0 do not matter. -/
theorem acquires_of_programmes :
    (broadcast.acquired impatient).phase = .timeResolved ∧
    (broadcast.acquired impatient).events =
      [.subscribedToSections, .subscribedToLock, .lock {} (.ok ()), .openSource (.ok ()),
        .setFilter 0x0000 0x00 (.ok ⟨1⟩), .freeFilter ⟨1⟩, .setFilter 0x200 0x02 (.ok ⟨2⟩),
        .createStream 0x201 .mpeg2Video (.ok ⟨1⟩), .channelBound ⟨2, none, some 0x201⟩,
        .freeFilter ⟨2⟩, .setFilter 0x0014 0x70 (.ok ⟨3⟩), .freeFilter ⟨3⟩,
        .setFilter 0x0014 0x73 (.ok ⟨4⟩), .freeFilter ⟨4⟩,
        .timeResolved (.ofLocal ⟨⟨2009, 9, 24⟩, 3600 + 60 * 20, 0⟩ 0)] ∧
    (broadcast.played impatient [.up, .direct 7]).channel = some ⟨1, some 0x102, some 0x101⟩ := by
  obtain ⟨⟨service, hservice, hphase, hevents⟩, hplays⟩ := broadcast.acquires impatient
  obtain rfl : (⟨2, 0x200⟩ : Pat.Service) = service := Option.some.inj hservice
  refine ⟨hphase, hevents.trans (by decide +kernel), ?_⟩
  exact (hplays [.up, .direct 7]).1.channel.trans (by decide +kernel)

end Broadcast

end Simulation

end DvbReceiver
