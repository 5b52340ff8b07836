import DvbReceiver.Bytes
import DvbReceiver.Channel
import DvbReceiver.Config
import DvbReceiver.Stream

/-!
# Tuner, demultiplexer and player

A session drives three pieces of hardware through `Devices`. Each call takes the state of the
hardware and gives a `Reply`: its result, the new state, and what is delivered to the session
while the call is being made. That may come from the hardware, or from the application, which
does not wait for calls to be over. Calls that acquire something may fail; calls that give
something back do not.

`Devices.Undisturbed` says that the application asks for no channel during calls. Then a session
comes to rest by itself.
-/

namespace DvbReceiver

/-- What the tuner says about its lock. -/
inductive LockStatus
  | locked
  | notLocked
  deriving DecidableEq, Repr

/-- A demultiplexer's name for a filter. -/
structure FilterHandle where
  number : Nat
  deriving DecidableEq, Repr

/-- A player's name for a stream. -/
structure StreamHandle where
  number : Nat
  deriving DecidableEq, Repr

/-- A failure that the hardware reports. -/
inductive DeviceError
  | tuner (reason : String)
  | filter (reason : String)
  | source (reason : String)
  | stream (reason : String)
  deriving DecidableEq, Repr

/-- The wording of a hardware failure. -/
def DeviceError.message : DeviceError → String
  | .tuner reason => "tuner failure: " ++ reason
  | .filter reason => "demux filter failure: " ++ reason
  | .source reason => "player source failure: " ++ reason
  | .stream reason => "player stream failure: " ++ reason

/-- What is handed to a session from outside. -/
inductive Delivery
  /-- The demultiplexer has collected a section. -/
  | arrived (bytes : Bytes)
  /-- The tuner reports its lock. -/
  | status (status : LockStatus)
  /-- The viewer asks for a channel. -/
  | request (request : ChannelRequest)
  /-- The application wants the session to end. -/
  | shutdown
  deriving DecidableEq, Repr

/-- The channel request among deliveries. -/
def Delivery.request? : Delivery → Option ChannelRequest
  | request asked => some asked
  | _ => none

/-- The answer to a call. -/
structure Reply (σ α : Type) where
  result : α
  /-- What is delivered during the call, in order. -/
  delivered : List Delivery := []
  /-- The state of the hardware after the call. -/
  hardware : σ

/-- The calls that a session makes, on hardware with states of type `σ`. -/
structure Devices (σ : Type) where
  lock : Tuning → σ → Reply σ (Except DeviceError Unit)
  release : σ → Reply σ Unit
  /-- Asks for the sections with a PID and a table id. -/
  setFilter : (pid tableId : Nat) → σ → Reply σ (Except DeviceError FilterHandle)
  freeFilter : FilterHandle → σ → Reply σ Unit
  openSource : σ → Reply σ (Except DeviceError Unit)
  closeSource : σ → Reply σ Unit
  createStream : (pid : Nat) → Codec → σ → Reply σ (Except DeviceError StreamHandle)
  removeStream : StreamHandle → σ → Reply σ Unit

/-- No channel is asked for during the call. -/
def Reply.Undisturbed {σ α : Type} (reply : Reply σ α) : Prop :=
  ∀ delivery ∈ reply.delivered, delivery.request? = none

/-- No channel is asked for during any call. -/
class Devices.Undisturbed {σ : Type} (devices : Devices σ) : Prop where
  lock : ∀ tuning hardware, (devices.lock tuning hardware).Undisturbed
  release : ∀ hardware, (devices.release hardware).Undisturbed
  setFilter : ∀ pid tableId hardware, (devices.setFilter pid tableId hardware).Undisturbed
  freeFilter : ∀ handle hardware, (devices.freeFilter handle hardware).Undisturbed
  openSource : ∀ hardware, (devices.openSource hardware).Undisturbed
  closeSource : ∀ hardware, (devices.closeSource hardware).Undisturbed
  createStream : ∀ pid codec hardware, (devices.createStream pid codec hardware).Undisturbed
  removeStream : ∀ handle hardware, (devices.removeStream handle hardware).Undisturbed

end DvbReceiver
