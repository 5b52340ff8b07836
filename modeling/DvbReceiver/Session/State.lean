import DvbReceiver.Registry
import DvbReceiver.Session.Journal

/-!
# The state of a session

A session looks for one thing at a time, its `Goal`, and takes signals from its queue until one
meets the goal. `Session` holds all of it: the queue, the registry, what the hardware has lent
out (`Holdings`), and the journal. Sections are decoded and stored when they are delivered; the
signal that announces them waits in the queue.
-/

namespace DvbReceiver

/-- What a session waits for. -/
inductive Goal
  | locked
  | pat
  /-- A PMT with this programme number. -/
  | pmt (programNumber : Nat)
  /-- A TDT whose fields form a date-time. -/
  | tdt
  /-- A TOT, with the UTC time of the TDT and the instant at which that was taken up. -/
  | tot (utc : DateTime) (capturedAt : Int)
  /-- Nothing but a channel request or the end. -/
  | request
  deriving DecidableEq, Repr

/-- How far a session has come. -/
inductive Progress
  /-- Nothing has been done yet. -/
  | starting
  /-- Signals are taken for a goal, since a time on the clock. -/
  | waiting (goal : Goal) (since : Nat)
  | finished (outcome : Outcome)
  deriving DecidableEq

/-- What a session has acquired from the hardware and not given back. -/
structure Holdings where
  filter : Option FilterHandle := none
  video : Option StreamHandle := none
  audio : Option StreamHandle := none
  sourceOpen : Bool := false
  tunerEngaged : Bool := false
  deriving DecidableEq, Repr

/-- An acquisition session on hardware with states of type `σ`. -/
structure Session (σ : Type) where
  config : Config
  hardware : σ
  /-- Milliseconds since the start. -/
  clock : Nat := 0
  /-- The time up to which limits that have passed are noticed. It lags behind the clock only
  while a jump of the clock is being taken in. -/
  alarm : Nat := 0
  registry : Registry := {}
  queue : List Signal := []
  progress : Progress := .starting
  phase : Phase := .idle
  /-- The channel that is being played. -/
  channel : Option ChannelInfo := none
  /-- The services of the accepted PAT. -/
  services : List Pat.Service := []
  /-- The index of the selected service. -/
  index : Nat := Channel.first
  /-- Channel requests made before there was a PAT. -/
  deferred : List ChannelRequest := []
  timeIsResolved : Bool := false
  held : Holdings := {}
  /-- How many stores the registry counted when the filter was last programmed. -/
  mark : Nat := 0
  journal : List Entry := []

/-- The wait for a goal has this limit in milliseconds, if any. -/
def Goal.limit? (config : Config) : Goal → Option Nat
  | locked => some config.tunerLockTimeout
  | pat | pmt _ => some config.tableTimeout
  | tdt | tot _ _ => some config.timeTableTimeout
  | request => none

/-- Channel requests are put off while there is no PAT. -/
def Goal.Defers (goal : Goal) : Prop := goal = locked ∨ goal = pat

instance (goal : Goal) : Decidable goal.Defers :=
  inferInstanceAs (Decidable (_ ∨ _))

/-- The channel requests among signals. -/
def Signal.request? : Signal → Option ChannelRequest
  | channelChange request => some request
  | _ => none

namespace Session

variable {σ α : Type}

/-- Writes an entry into the journal. -/
def record (s : Session σ) (entry : Entry) : Session σ :=
  { s with journal := s.journal ++ [entry] }

/-- The events of the journal, in order. -/
def events (s : Session σ) : List Event := s.journal.filterMap Entry.event?

def enter (s : Session σ) (phase : Phase) : Session σ :=
  { s with phase }.record (.entered phase)

/-- Waits for a goal from now on. -/
def await (s : Session σ) (goal : Goal) : Session σ :=
  { s with progress := .waiting goal s.clock }

/-- How the session ended, if it has. -/
def outcome? (s : Session σ) : Option Outcome :=
  match s.progress with
  | .finished outcome => some outcome
  | _ => none

/-- Puts a signal into the queue. A session that is over has no queue. -/
def post (s : Session σ) (signal : Signal) : Session σ :=
  match s.outcome? with
  | some _ => s
  | none => { s with queue := s.queue ++ [signal] }.record (.queued signal)

/-- Takes in a section: one that can be decoded is stored and announced, any other is dropped. -/
def receive (s : Session σ) (bytes : Bytes) : Session σ :=
  match Table.ofSection? bytes with
  | some (.ok table) =>
    ({ s with registry := s.registry.store table }.record (.stored table)).post
      (.tableArrived table.kind)
  | _ => s

/-- Takes in what is delivered. -/
def deliver (s : Session σ) : Delivery → Session σ
  | .arrived bytes => s.receive bytes
  | .status status => s.post (.tunerStatus status)
  | .request request => s.post (.channelChange request)
  | .shutdown => s.post .shutdown

/-- Notes a call and takes in what was delivered during it. -/
def absorb (s : Session σ) (event : Event) (reply : Reply σ α) : Session σ :=
  reply.delivered.foldl deliver ({ s with hardware := reply.hardware }.record (.event event))

/-- A session at its start, with its subscriptions made. -/
def start (config : Config) (hardware : σ) : Session σ :=
  { config, hardware
    journal := [.event .subscribedToSections, .event .subscribedToLock] }

end Session

end DvbReceiver
