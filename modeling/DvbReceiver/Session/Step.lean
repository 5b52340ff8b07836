import DvbReceiver.LocalTime
import DvbReceiver.Session.State

/-!
# The steps of a session

A session locks the tuner, finds the PAT, and binds the streams of the selected service. Once it
has streams it finds out the local time, one time only. From then on it waits for channel
requests. `Session.step?` does the next thing there is to do: it begins, takes one signal from the
queue, or gives up a wait whose limit has passed. Every end, good or bad, gives back what is held.

A signal is first looked at for what is waited for. The announcement of a table only says that
the registry is to be looked at: it must hold a table of that kind that was stored after the
filter was programmed. Otherwise a shutdown ends the session, and a channel request leads to a
new service or, before the PAT, is put off.
-/

namespace DvbReceiver

/-- The PID of the PAT. -/
def patPid : Nat := 0x0000

/-- The PID of the TDT and of the TOT. -/
def timePid : Nat := 0x0014

/-- What meets a goal. -/
inductive Arrival
  | locked
  | pat (pat : Pat)
  | pmt (pmt : Pmt)
  | tdt (utc : DateTime)
  | tot (utc : DateTime) (capturedAt : Int) (tot : Tot)

/-- What meets the goal on this signal, from the tables stored after the mark. -/
def Goal.met? (goal : Goal) (registry : Registry) (mark : Nat) (signal : Signal) :
    Option Arrival :=
  match goal, signal with
  | .locked, .tunerStatus .locked => some .locked
  | .pat, .tableArrived .pat => (Registry.Slot.after? registry.pat mark).map .pat
  | .pmt programNumber, .tableArrived .pmt =>
    ((Registry.Slot.after? registry.pmt mark).filter (·.programNumber = programNumber)).map .pmt
  | .tdt, .tableArrived .tdt =>
    ((Registry.Slot.after? registry.tdt mark).bind Tdt.utc?).map .tdt
  | .tot utc capturedAt, .tableArrived .tot =>
    (Registry.Slot.after? registry.tot mark).map (.tot utc capturedAt)
  | _, _ => none

namespace Session

variable {σ : Type} (devices : Devices σ)

/-! ## Giving back -/

def freeFilter (s : Session σ) : Session σ :=
  match s.held.filter with
  | none => s
  | some handle =>
    { s with held.filter := none }.absorb (.freeFilter handle)
      (devices.freeFilter handle s.hardware)

def removeVideo (s : Session σ) : Session σ :=
  match s.held.video with
  | none => s
  | some handle =>
    { s with held.video := none }.absorb (.removeStream handle)
      (devices.removeStream handle s.hardware)

def removeAudio (s : Session σ) : Session σ :=
  match s.held.audio with
  | none => s
  | some handle =>
    { s with held.audio := none }.absorb (.removeStream handle)
      (devices.removeStream handle s.hardware)

def closeSource (s : Session σ) : Session σ :=
  if s.held.sourceOpen then
    { s with held.sourceOpen := false }.absorb .closeSource (devices.closeSource s.hardware)
  else s

def releaseTuner (s : Session σ) : Session σ :=
  if s.held.tunerEngaged then
    { s with held.tunerEngaged := false }.absorb .release (devices.release s.hardware)
  else s

/-- Gives back everything that is held, the latest first, and forgets what was found. -/
def tearDown (s : Session σ) : Session σ :=
  let s := s.freeFilter devices |>.removeVideo devices |>.removeAudio devices |>.closeSource devices
    |>.releaseTuner devices
  { s with registry := s.registry.clear, channel := none }.enter .tornDown

/-- Ends the session. Signals that are left in the queue are dropped. -/
def finish (s : Session σ) (outcome : Outcome) : Session σ :=
  { (s.record (.ended outcome)).tearDown devices with progress := .finished outcome, queue := [] }

/-! ## Acquiring -/

/-- Programs the filter for a kind of table in the place of the one before, and waits. -/
def awaitTable (s : Session σ) (pid : Nat) (kind : TableKind) (goal : Goal) : Session σ :=
  let s := s.freeFilter devices
  let s := { s with mark := s.registry.sequence }
  let reply := devices.setFilter pid kind.tableId s.hardware
  let s := s.absorb (.setFilter pid kind.tableId reply.result) reply
  match reply.result with
  | .error error => s.finish devices (.error (.device error))
  | .ok handle => { s with held.filter := some handle }.await goal

/-- Locks the tuner. -/
def begin (s : Session σ) : Session σ :=
  let s := s.enter .tunerLocking
  let reply := devices.lock s.config.toTuning s.hardware
  let s := s.absorb (.lock s.config.toTuning reply.result) reply
  match reply.result with
  | .error error => s.finish devices (.error (.device error))
  | .ok () => { s with held.tunerEngaged := true }.await .locked

/-- Opens the player's source and looks for the PAT. -/
def findPat (s : Session σ) : Session σ :=
  let s := s.enter .awaitingPat
  let reply := devices.openSource s.hardware
  let s := s.absorb (.openSource reply.result) reply
  match reply.result with
  | .error error => s.finish devices (.error (.device error))
  | .ok () => { s with held.sourceOpen := true }.awaitTable devices patPid .pat .pat

/-- Looks for the PMT of the selected service. -/
def findPmt (s : Session σ) : Session σ :=
  match s.services[s.index]? with
  | none => s.finish devices (.error .noServices)
  | some service =>
    (s.enter .awaitingPmt).awaitTable devices service.pid .pmt (.pmt service.programNumber)

/-- Takes up the services of a PAT. The requests that were put off are applied in order. -/
def adoptPat (s : Session σ) (pat : Pat) : Session σ :=
  let count := pat.serviceCount
  if count ≤ Channel.first then s.finish devices (.error .noServices)
  else
    { s with
      services := pat.services.items
      index := s.deferred.foldl (Channel.step count) (Channel.initial count s.config.initialChannel)
      deferred := [] }.findPmt devices

/-- Creates a stream in the player, if there is one and the player has a codec for it. -/
def createStream (s : Session σ) (stream : Option Pmt.Stream) :
    Except DeviceError (Option (Nat × StreamHandle)) × Session σ :=
  match stream.bind fun stream => stream.codec?.map (stream.pid, ·) with
  | none => (.ok none, s)
  | some (pid, codec) =>
    let reply := devices.createStream pid codec s.hardware
    (reply.result.map fun handle => some (pid, handle),
      s.absorb (.createStream pid codec reply.result) reply)

/-- Looks for the UTC time. -/
def findTdt (s : Session σ) : Session σ :=
  (s.enter .awaitingTdt).awaitTable devices timePid .tdt .tdt

/-- Looks for the offset from the UTC time. -/
def findTot (s : Session σ) (utc : DateTime) : Session σ :=
  (s.enter .awaitingTot).awaitTable devices timePid .tot (.tot utc (1000000 * s.clock))

/-- Shows the channel whose streams have been created, and goes on to the local time if that is
not known yet. -/
def announce (s : Session σ) (channel : ChannelInfo) : Session σ :=
  let s := { s with channel := some channel }.enter .streamsBound
  let s := s.record (.event (.channelBound channel))
  if s.timeIsResolved then s.await .request else s.findTdt devices

/-- Creates the first audio stream of a PMT. The PID of the video stream is shown with it. -/
def bindAudio (s : Session σ) (pmt : Pmt) (videoPid : Option Nat) : Session σ :=
  match s.createStream devices pmt.firstAudio? with
  | (.error error, s) => s.finish devices (.error (.device error))
  | (.ok audio, s) =>
    { s with held.audio := audio.map Prod.snd }.announce devices
      { programNumber := pmt.programNumber, audioPid := audio.map Prod.fst, videoPid }

/-- Creates the first video stream of a PMT, and then its first audio stream. -/
def bindVideo (s : Session σ) (pmt : Pmt) : Session σ :=
  match s.createStream devices pmt.firstVideo? with
  | (.error error, s) => s.finish devices (.error (.device error))
  | (.ok video, s) =>
    { s with held.video := video.map Prod.snd }.bindAudio devices pmt (video.map Prod.fst)

/-- Replaces the streams by the first video and the first audio stream of a PMT. -/
def bindStreams (s : Session σ) (pmt : Pmt) : Session σ :=
  s.removeVideo devices |>.removeAudio devices |>.bindVideo devices pmt

/-- Delivers the local time, and waits for channel requests. -/
def resolveTime (s : Session σ) (utc : DateTime) (capturedAt : Int) (tot : Tot) : Session σ :=
  let s := s.freeFilter devices
  let time := LocalTime.resolve utc (some tot) s.config.countryCode
  let s := { s with timeIsResolved := true }.enter .timeResolved
  (s.record (.event (.timeResolved (.ofLocal time capturedAt)))).await .request

/-! ## Reacting -/

/-- Goes on with what was waited for. -/
def proceed (s : Session σ) : Arrival → Session σ
  | .locked => s.findPat devices
  | .pat pat => s.adoptPat devices pat
  | .pmt pmt => s.bindStreams devices pmt
  | .tdt utc => s.findTot devices utc
  | .tot utc capturedAt tot => s.resolveTime devices utc capturedAt tot

/-- Reacts to a channel request that comes while a goal is waited for. -/
def changeChannel (s : Session σ) (goal : Goal) (request : ChannelRequest) : Session σ :=
  if goal.Defers then { s with deferred := s.deferred ++ [request] }
  else
    match Channel.next? s.index s.services.length request with
    | some index => { s with index }.findPmt devices
    | none => s

/-- Reacts to a signal that was taken from the queue while a goal is waited for. -/
def react (s : Session σ) (goal : Goal) (signal : Signal) : Session σ :=
  match goal.met? s.registry s.mark signal with
  | some arrival => s.proceed devices arrival
  | none =>
    match signal with
    | .shutdown => s.finish devices (.ok ())
    | .channelChange request => s.changeChannel devices goal request
    | .tunerStatus _ | .tableArrived _ => s

/-- The limit of a wait for `goal` since a time, if it has passed and that is noticed. -/
def passedLimit? (s : Session σ) (goal : Goal) (since : Nat) : Option Nat :=
  (goal.limit? s.config).filter (since + · ≤ s.alarm)

/-- The next thing that a session does by itself, if there is any. -/
def step? (s : Session σ) : Option (Session σ) :=
  match s.progress with
  | .starting => some (s.begin devices)
  | .finished _ => none
  | .waiting goal since =>
    match s.queue with
    | signal :: rest =>
      some ({ s with queue := rest }.record (.took signal) |>.react devices goal signal)
    | [] =>
      (s.passedLimit? goal since).map fun limit =>
        s.finish devices (.error (.timeout s.phase limit))

end Session

end DvbReceiver
