import DvbReceiver.LocalTime.Resolved
import DvbReceiver.Session.Devices
import DvbReceiver.Table
import DvbReceiver.Text.Duration

/-!
# What happens in a session

The phases of a session, the signals it reacts to, the ways in which it ends, and the journal of
all that happens in it. The journal's events are what the outside notices: calls to the hardware
and notifications to the application. Its other entries are inner steps.
-/

namespace DvbReceiver

/-- The phases of a session. -/
inductive Phase
  | idle
  | tunerLocking
  | awaitingPat
  | awaitingPmt
  | streamsBound
  | awaitingTdt
  | awaitingTot
  | timeResolved
  /-- Everything is given back and the session is over. -/
  | tornDown
  deriving DecidableEq, Repr

/-- What a session does in a phase. -/
def Phase.description : Phase → String
  | idle => "idle"
  | tunerLocking => "waiting for tuner lock"
  | awaitingPat => "waiting for PAT"
  | awaitingPmt => "waiting for PMT"
  | streamsBound => "streams bound"
  | awaitingTdt => "waiting for TDT"
  | awaitingTot => "waiting for TOT"
  | timeResolved => "time resolved"
  | tornDown => "torn down"

/-- What a session reacts to, in order of arrival. -/
inductive Signal
  | tunerStatus (status : LockStatus)
  /-- A table of this kind has been stored. -/
  | tableArrived (kind : TableKind)
  | channelChange (request : ChannelRequest)
  | shutdown
  deriving DecidableEq, Repr

/-- How a session fails. A session that is broken off from outside has no outcome. -/
inductive SessionError
  /-- A wait passed its limit, in milliseconds. -/
  | timeout (phase : Phase) (limit : Nat)
  | device (error : DeviceError)
  | noServices
  /-- The session is over and takes no more signals. -/
  | queueClosed
  deriving DecidableEq, Repr

/-- The wording of a failure. -/
def SessionError.message : SessionError → String
  | timeout phase limit =>
    "timed out after " ++ Text.duration limit ++ " while " ++ phase.description
  | device error => error.message
  | noServices => "PAT carries no selectable service"
  | queueClosed => "signal queue closed"

instance decidableEqExcept {ε α : Type} [DecidableEq ε] [DecidableEq α] :
    DecidableEq (Except ε α)
  | .ok a, .ok b => decidable_of_iff (a = b) (by simp)
  | .error a, .error b => decidable_of_iff (a = b) (by simp)
  | .ok _, .error _ => isFalse (by simp)
  | .error _, .ok _ => isFalse (by simp)

/-- How a session ends. -/
abbrev Outcome := Except SessionError Unit

/-- The channel that is being played. -/
structure ChannelInfo where
  programNumber : Nat
  audioPid : Option Nat
  videoPid : Option Nat
  deriving DecidableEq, Repr

/-- What the outside notices of a session. -/
inductive Event
  /-- The session asks the demultiplexer to deliver sections to it. -/
  | subscribedToSections
  /-- The session asks the tuner to report its lock. -/
  | subscribedToLock
  | lock (tuning : Tuning) (result : Except DeviceError Unit)
  | release
  | setFilter (pid tableId : Nat) (result : Except DeviceError FilterHandle)
  | freeFilter (handle : FilterHandle)
  | openSource (result : Except DeviceError Unit)
  | closeSource
  | createStream (pid : Nat) (codec : Codec) (result : Except DeviceError StreamHandle)
  | removeStream (handle : StreamHandle)
  | timeResolved (time : ResolvedTime)
  | volumeChanged (level : Nat)
  | channelBound (channel : ChannelInfo)
  deriving DecidableEq

/-- One line of a session's journal. -/
inductive Entry
  | event (event : Event)
  /-- A section was decoded and put into the registry. -/
  | stored (table : Table)
  /-- A signal joined the queue. -/
  | queued (signal : Signal)
  /-- A signal was taken from the queue. -/
  | took (signal : Signal)
  | entered (phase : Phase)
  /-- The session has come to its end and is about to give back what it holds. -/
  | ended (outcome : Outcome)
  deriving DecidableEq

/-- The event of a journal entry. -/
def Entry.event? : Entry → Option Event
  | .event noticed => some noticed
  | _ => none

end DvbReceiver
