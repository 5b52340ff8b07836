import DvbReceiver.Proofs.Session.Turns

/-!
# The situation of a session

`Session.situation` is what a session has come to by its own doing: everything but the hardware,
the queue, the registry and what has been delivered. What the hardware answers decides where it
goes on to, and what is delivered meanwhile does not. So each function of the session has a
counterpart that relates situations, in which a call succeeds with some value or fails
(`Situation.Tries`):

* `seeks_awaitTable`, `findsPat_findPat`, … and `bindsStreams_bindStreams` say that the functions
  of the session do what their counterparts allow;
* `Move.step_or_idle`: a move that is no step lets time pass and shows volumes, and leaves the
  situation otherwise as it is.
-/

namespace DvbReceiver

open Journal

/-- The entry notes something that the session or the application did, not a delivery. -/
def Entry.isDeed : Entry → Bool
  | stored _ | queued _ => false
  | _ => true

/-- What the session and the application did. -/
def Journal.deeds (journal : List Entry) : List Entry := journal.filter Entry.isDeed

/-- What a session has come to. -/
structure Situation where
  clock : Nat
  alarm : Nat
  progress : Progress
  phase : Phase
  channel : Option ChannelInfo
  services : List Pat.Service
  index : Nat
  timeIsResolved : Bool
  held : Holdings
  /-- The journal without what was delivered. -/
  deeds : List Entry

namespace Situation

/-- One more deed. -/
def note (x : Situation) (entry : Entry) : Situation :=
  { x with deeds := x.deeds ++ [entry] }

/-- Calls that cannot fail, with what is held after them. -/
def make (x : Situation) (events : List Event) (held : Holdings) : Situation :=
  { x with held, deeds := x.deeds ++ events.map .event }

def hold (x : Situation) (held : Holdings) : Situation := { x with held }

def enter (x : Situation) (phase : Phase) : Situation := { x with phase }.note (.entered phase)

def await (x : Situation) (goal : Goal) : Situation :=
  { x with progress := .waiting goal x.clock }

def finish (x : Situation) (outcome : Outcome) : Situation :=
  { x with
    progress := .finished outcome
    phase := .tornDown
    channel := none
    held := {}
    deeds := x.deeds ++ .ended outcome :: x.held.releases.map .event ++ [.entered .tornDown] }

/-- Time passes and may be noticed, and volumes are shown. -/
def idle (x : Situation) (pause alarm : Nat) (levels : List Nat) : Situation :=
  { x with
    clock := x.clock + pause
    alarm
    deeds := x.deeds ++ levels.map fun level => .event (.volumeChanged level) }

def freeFilter (x : Situation) : Situation :=
  x.make x.held.filterRelease { x.held with filter := none }

def removeVideo (x : Situation) : Situation :=
  x.make x.held.videoRelease { x.held with video := none }

def removeAudio (x : Situation) : Situation :=
  x.make x.held.audioRelease { x.held with audio := none }

/-- A call is made, and its failure is the end. -/
inductive Tries {α : Type} (x : Situation) (call : Except DeviceError α → Event)
    (go : α → Situation → Situation → Prop) : Situation → Prop
  | succeeds {y : Situation} (value : α) (h : go value (x.note (.event (call (.ok value)))) y) :
    Tries x call go y
  | fails (error : DeviceError) :
    Tries x call go ((x.note (.event (call (.error error)))).finish (.error (.device error)))

def Seeks (x : Situation) (pid : Nat) (kind : TableKind) (goal : Goal) : Situation → Prop :=
  x.freeFilter.Tries (.setFilter pid kind.tableId) fun handle y z =>
    z = (y.hold { y.held with filter := some handle }).await goal

def Begins (x : Situation) (tuning : Tuning) : Situation → Prop :=
  (x.enter .tunerLocking).Tries (.lock tuning) fun _ y z =>
    z = (y.hold { y.held with tunerEngaged := true }).await .locked

def FindsPat (x : Situation) : Situation → Prop :=
  (x.enter .awaitingPat).Tries .openSource fun _ y =>
    (y.hold { y.held with sourceOpen := true }).Seeks patPid .pat .pat

def FindsPmt (x : Situation) (y : Situation) : Prop :=
  match x.services[x.index]? with
  | none => y = x.finish (.error .noServices)
  | some service =>
    (x.enter .awaitingPmt).Seeks service.pid .pmt (.pmt service.programNumber) y

def FindsTdt (x : Situation) : Situation → Prop :=
  (x.enter .awaitingTdt).Seeks timePid .tdt .tdt

def FindsTot (x : Situation) (utc : DateTime) : Situation → Prop :=
  (x.enter .awaitingTot).Seeks timePid .tot (.tot utc (1000000 * x.clock))

/-- A stream is created, if there is one and the player has a codec for it. -/
def Creates (x : Situation) (stream : Option Pmt.Stream)
    (go : Option (Nat × StreamHandle) → Situation → Situation → Prop) (z : Situation) : Prop :=
  match stream.bind fun stream => stream.codec?.map (stream.pid, ·) with
  | none => go none x z
  | some (pid, codec) => x.Tries (.createStream pid codec) (fun handle => go (some (pid, handle))) z

def Announces (x : Situation) (channel : ChannelInfo) (z : Situation) : Prop :=
  let y := { x with channel := some channel }.enter .streamsBound
    |>.note (.event (.channelBound channel))
  if x.timeIsResolved then z = y.await .request else y.FindsTdt z

def BindsAudio (x : Situation) (pmt : Pmt) (videoPid : Option Nat) : Situation → Prop :=
  x.Creates pmt.firstAudio? fun audio y =>
    (y.hold { y.held with audio := audio.map Prod.snd }).Announces
      { programNumber := pmt.programNumber, audioPid := audio.map Prod.fst, videoPid }

def BindsVideo (x : Situation) (pmt : Pmt) : Situation → Prop :=
  x.Creates pmt.firstVideo? fun video y =>
    (y.hold { y.held with video := video.map Prod.snd }).BindsAudio pmt (video.map Prod.fst)

def BindsStreams (x : Situation) (pmt : Pmt) : Situation → Prop :=
  x.removeVideo.removeAudio.BindsVideo pmt

def resolveTime (x : Situation) (time : ResolvedTime) : Situation :=
  { x.freeFilter with timeIsResolved := true }.enter .timeResolved
    |>.note (.event (.timeResolved time))
    |>.await .request

end Situation

namespace Journal

@[simp] theorem deeds_append (journal entries : List Entry) :
    deeds (journal ++ entries) = deeds journal ++ deeds entries := List.filter_append ..

/-- Deliveries are no events. -/
theorem events_deeds (journal : List Entry) : events (deeds journal) = events journal := by
  rw [events, deeds, List.filterMap_filter]
  congr 1
  funext entry
  cases entry <;> rfl

/-- Of calls and what was delivered during them, only the calls are deeds. -/
theorem Calls.deeds_eq {events : List Event} {entries : List Entry} (h : Calls events entries) :
    deeds entries = events.map .event := by
  induction h with
  | nil => rfl
  | call event _ ih => exact congrArg (.event event :: ·) ih
  | «section» _ _ _ _ ih => exact ih
  | signal _ _ _ ih => exact ih

end Journal

namespace Session

variable {σ : Type} (devices : Devices σ) {s t : Session σ}

/-- What the session has come to. -/
def situation (s : Session σ) : Situation where
  clock := s.clock
  alarm := s.alarm
  progress := s.progress
  phase := s.phase
  channel := s.channel
  services := s.services
  index := s.index
  timeIsResolved := s.timeIsResolved
  held := s.held
  deeds := deeds s.journal

/-- The events of a session are those of its deeds. -/
theorem events_situation (s : Session σ) : Journal.events s.situation.deeds = s.events :=
  events_deeds s.journal

/-! ## What the functions of a session do -/

theorem situation_record (s : Session σ) {entry : Entry} (h : entry.isDeed = true) :
    (s.record entry).situation = s.situation.note entry := by
  simp [situation, record, Situation.note, deeds, h]

theorem situation_enter (s : Session σ) (phase : Phase) :
    (s.enter phase).situation = s.situation.enter phase :=
  situation_record { s with phase } rfl

theorem situation_take (s : Session σ) (signal : Signal) (rest : List Signal) :
    (s.take signal rest).situation = s.situation.note (.took signal) :=
  situation_record { s with queue := rest } rfl

theorem Makes.situation_eq {events : List Event} {held : Holdings} (h : s.Makes events held t) :
    t.situation = s.situation.make events held := by
  obtain ⟨hardware, entries, hcalls, rfl⟩ := h
  simp [situation, hear, Situation.make, hcalls.deeds_eq]

theorem situation_finish (hlive : s.outcome? = none) (outcome : Outcome) :
    (s.finish devices outcome).situation = s.situation.finish outcome := by
  obtain ⟨hardware, entries, hcalls, heq⟩ := exists_finish devices hlive outcome
  have hdeeds : deeds (.ended outcome :: entries ++ [.entered .tornDown]) =
      .ended outcome :: s.held.releases.map .event ++ [.entered .tornDown] := by
    rw [deeds_append, ← hcalls.deeds_eq]
    rfl
  rw [heq, List.append_assoc]
  simp only [situation, Situation.finish, deeds_append, hdeeds, List.append_assoc]

section Tries

variable {α : Type} {call : Except DeviceError α → Event} {reply : Reply σ (Except DeviceError α)}
  {go : α → Situation → Situation → Prop}

theorem situation_absorb (hlive : s.outcome? = none) (event : Event) (reply : Reply σ α) :
    (s.absorb event reply).situation = s.situation.note (.event event) :=
  (makes_absorb hlive event reply).situation_eq

/-- A call fails, and the session ends. -/
theorem tries_of_error (hlive : s.outcome? = none) {error : DeviceError}
    (h : reply.result = .error error) :
    s.situation.Tries call go
      ((s.absorb (call reply.result) reply).finish devices (.error (.device error))).situation := by
  have hasked := (makes_absorb hlive (call reply.result) reply).outcome?_eq.trans hlive
  rw [situation_finish devices hasked, situation_absorb hlive, h]
  exact .fails error

/-- A call succeeds, and the session goes on with its result. -/
theorem tries_of_ok (hlive : s.outcome? = none) {value : α} {y : Situation}
    (h : reply.result = .ok value)
    (hgo : go value (s.absorb (call reply.result) reply).situation y) :
    s.situation.Tries call go y := by
  rw [situation_absorb hlive, h] at hgo
  exact .succeeds value hgo

end Tries

theorem situation_freeFilter (hlive : s.outcome? = none) :
    (s.freeFilter devices).situation = s.situation.freeFilter :=
  (makes_freeFilter devices hlive).situation_eq

theorem seeks_awaitTable (hlive : s.outcome? = none) (pid : Nat) (kind : TableKind) (goal : Goal) :
    s.situation.Seeks pid kind goal (s.awaitTable devices pid kind goal).situation := by
  have hfreed := (makes_freeFilter devices hlive).outcome?_eq.trans hlive
  rw [Situation.Seeks, ← situation_freeFilter devices hlive]
  unfold awaitTable
  extract_lets freed marked reply asked
  split
  · next hresult => exact tries_of_error devices (s := marked) hfreed hresult
  · next hresult => exact tries_of_ok (s := marked) hfreed hresult rfl

theorem seeks_enter (hlive : s.outcome? = none) (phase : Phase) (pid : Nat) (kind : TableKind)
    (goal : Goal) :
    (s.situation.enter phase).Seeks pid kind goal
      ((s.enter phase).awaitTable devices pid kind goal).situation := by
  rw [← situation_enter]
  exact seeks_awaitTable devices (s := s.enter phase) hlive pid kind goal

theorem begins_begin (hlive : s.outcome? = none) :
    s.situation.Begins s.config.toTuning (s.begin devices).situation := by
  rw [Situation.Begins, ← situation_enter]
  unfold begin
  extract_lets entered reply asked
  split
  · next hresult => exact tries_of_error devices (s := entered) hlive hresult
  · next hresult => exact tries_of_ok (s := entered) hlive hresult rfl

theorem findsPat_findPat (hlive : s.outcome? = none) :
    s.situation.FindsPat (s.findPat devices).situation := by
  rw [Situation.FindsPat, ← situation_enter]
  unfold findPat
  extract_lets entered reply asked
  have hasked : asked.outcome? = none :=
    (makes_absorb (s := entered) hlive (.openSource reply.result) reply).outcome?_eq.trans hlive
  split
  · next hresult => exact tries_of_error devices (s := entered) hlive hresult
  · next hresult =>
    refine tries_of_ok (s := entered) hlive hresult ?_
    exact seeks_awaitTable devices (s := { asked with held.sourceOpen := true }) hasked ..

theorem findsPmt_findPmt (hlive : s.outcome? = none) :
    s.situation.FindsPmt (s.findPmt devices).situation := by
  rcases hservice : s.services[s.index]? with _ | service
  · have heq : s.situation.services[s.situation.index]? = none := hservice
    rw [Situation.FindsPmt, heq, findPmt, hservice]
    exact situation_finish devices hlive _
  · have heq : s.situation.services[s.situation.index]? = some service := hservice
    rw [Situation.FindsPmt, heq, findPmt, hservice]
    exact seeks_enter devices hlive ..

theorem findsTdt_findTdt (hlive : s.outcome? = none) :
    s.situation.FindsTdt (s.findTdt devices).situation :=
  seeks_enter devices hlive ..

theorem findsTot_findTot (hlive : s.outcome? = none) (utc : DateTime) :
    s.situation.FindsTot utc (s.findTot devices utc).situation :=
  seeks_enter devices hlive ..

/-- A stream is created, if there is one to create, and the session goes on with it or ends. -/
theorem creates_createStream (hlive : s.outcome? = none) {stream : Option Pmt.Stream}
    {go : Option (Nat × StreamHandle) → Situation → Situation → Prop} {y : Situation}
    (hok : ∀ found t, s.createStream devices stream = (.ok found, t) → t.outcome? = none →
      go found t.situation y)
    (herror : ∀ error t, s.createStream devices stream = (.error error, t) →
      y = (t.finish devices (.error (.device error))).situation) :
    s.situation.Creates stream go y := by
  unfold Situation.Creates
  unfold createStream at hok herror
  generalize stream.bind (fun stream => stream.codec?.map (stream.pid, ·)) = wanted
    at hok herror ⊢
  rcases wanted with _ | ⟨pid, codec⟩
  · exact hok none s rfl hlive
  · have hmakes := fun event => makes_absorb hlive event (devices.createStream pid codec s.hardware)
    rcases hresult : (devices.createStream pid codec s.hardware).result with error | handle
    · rw [herror error _ (Prod.ext (by simp only [hresult]; rfl) rfl)]
      exact tries_of_error devices hlive hresult
    · refine tries_of_ok hlive hresult ?_
      exact hok _ _ (Prod.ext (by simp only [hresult]; rfl) rfl)
        ((hmakes _).outcome?_eq.trans hlive)

theorem announces_announce (hlive : s.outcome? = none) (channel : ChannelInfo) :
    s.situation.Announces channel (s.announce devices channel).situation := by
  unfold Situation.Announces announce
  extract_lets shown entered noted
  have hshown : noted.situation = shown := by
    rw [situation_record _ rfl, situation_enter]
    rfl
  rw [← hshown]
  by_cases hresolved : s.timeIsResolved
  · rw [if_pos (show s.situation.timeIsResolved = true from hresolved), if_pos (by exact hresolved)]
    rfl
  · rw [if_neg (show ¬s.situation.timeIsResolved = true from hresolved),
      if_neg (by exact hresolved)]
    exact findsTdt_findTdt devices hlive

theorem bindsAudio_bindAudio (hlive : s.outcome? = none) (pmt : Pmt) (videoPid : Option Nat) :
    s.situation.BindsAudio pmt videoPid (s.bindAudio devices pmt videoPid).situation := by
  refine creates_createStream devices hlive ?_ ?_
  · intro audio t heq hlive'
    rw [bindAudio, heq]
    exact announces_announce devices (s := { t with held.audio := audio.map Prod.snd }) hlive' _
  · intro error t heq
    rw [bindAudio, heq]

theorem bindsVideo_bindVideo (hlive : s.outcome? = none) (pmt : Pmt) :
    s.situation.BindsVideo pmt (s.bindVideo devices pmt).situation := by
  refine creates_createStream devices hlive ?_ ?_
  · intro video t heq hlive'
    rw [bindVideo, heq]
    exact bindsAudio_bindAudio devices (s := { t with held.video := video.map Prod.snd }) hlive'
      pmt _
  · intro error t heq
    rw [bindVideo, heq]

theorem bindsStreams_bindStreams (hlive : s.outcome? = none) (pmt : Pmt) :
    s.situation.BindsStreams pmt (s.bindStreams devices pmt).situation := by
  have hvideo := makes_removeVideo devices hlive
  have hvideoLive := hvideo.outcome?_eq.trans hlive
  have haudio := makes_removeAudio devices hvideoLive
  have hsituation : (s.removeVideo devices |>.removeAudio devices).situation =
      s.situation.removeVideo.removeAudio := by
    rw [haudio.situation_eq, hvideo.held_eq, hvideo.situation_eq]
    rfl
  unfold Situation.BindsStreams bindStreams
  rw [← hsituation]
  exact bindsVideo_bindVideo devices (haudio.outcome?_eq.trans hvideoLive) pmt

theorem situation_resolveTime (hlive : s.outcome? = none) (utc : DateTime) (capturedAt : Int)
    (tot : Tot) :
    (s.resolveTime devices utc capturedAt tot).situation =
      s.situation.resolveTime
        (.ofLocal (LocalTime.resolve utc (some tot) s.config.countryCode) capturedAt) := by
  have hconfig := (makes_freeFilter devices hlive).course.1.config
  unfold resolveTime Situation.resolveTime
  rw [← situation_freeFilter devices hlive]
  extract_lets freed time resolved
  have hnoted : (resolved.record (.event (.timeResolved (.ofLocal time capturedAt)))).situation =
      ({ freed.situation with timeIsResolved := true }.enter .timeResolved).note
        (.event (.timeResolved (.ofLocal time capturedAt))) := by
    rw [situation_record _ rfl, situation_enter]
    rfl
  rw [← hconfig, ← hnoted]
  rfl

/-! ## Between the steps -/

/-- **A move that is no step** lets time pass and shows volumes. -/
theorem Move.step_or_idle (h : Move devices s t) :
    s.step? devices = some t ∨ ∃ pause alarm levels, (alarm = s.alarm ∨ alarm = s.clock) ∧
      t.situation = s.situation.idle pause alarm levels := by
  have hsame : s.situation = s.situation.idle 0 s.alarm [] := by simp [Situation.idle, situation]
  cases h with
  | step h => exact Or.inl h
  | deliver delivery =>
    refine Or.inr ⟨0, s.alarm, [], Or.inl rfl, ?_⟩
    rw [← hsame]
    rcases hlive : s.outcome? with _ | outcome
    · obtain ⟨entries, hcalls, heq⟩ := exists_deliver hlive delivery
      rw [heq]
      simp [situation, hear, hcalls.deeds_eq]
    · obtain ⟨tables, heq⟩ := exists_deliver_of_outcome? hlive delivery
      have hnone : deeds (tables.map Entry.stored) = [] := by simp [deeds, Entry.isDeed]
      rw [heq]
      simp [situation, hnone]
  | volume level => exact Or.inr ⟨0, s.alarm, [level], Or.inl rfl, situation_record s rfl⟩
  | wait milliseconds =>
    exact Or.inr ⟨milliseconds, s.alarm, [], Or.inl rfl, by simp [Situation.idle, situation]⟩
  | notice =>
    exact Or.inr ⟨0, s.clock, [], Or.inr rfl, by simp [Situation.idle, situation, noticeTime]⟩
  | hardware hardware => exact Or.inr ⟨0, s.alarm, [], Or.inl rfl, hsame⟩

end Session

end DvbReceiver
