import DvbReceiver.Session.Run

/-!
# What the application does to a session

The application posts channel requests, shows a volume, ends the session and waits for its end.
Time passes on a clock that only `Session.advance` and `Session.join` move.
-/

namespace DvbReceiver.Session

variable {σ : Type} (devices : Devices σ) [devices.Undisturbed]

/-- Posts a channel request, unless the session is over. -/
def request (s : Session σ) (request : ChannelRequest) : Except SessionError Unit × Session σ :=
  match s.outcome? with
  | some _ => (.error .queueClosed, s)
  | none => (.ok (), s.post (.channelChange request))

/-- Asks the session to end. -/
def shutdown (s : Session σ) : Session σ := s.post .shutdown

/-- Passes a volume level on to the application's callbacks. -/
def publishVolume (s : Session σ) (level : Nat) : Session σ :=
  s.record (.event (.volumeChanged level))

/-- Notices every limit that has passed by now. -/
def noticeTime (s : Session σ) : Session σ := { s with alarm := s.clock }

/-- Lets time pass in one jump. The session then takes the signals that are already there, and
what it waits for next it waits for from the new time on. Limits that the jump has passed are
noticed after that, so that a signal posted right after the jump still comes before them. -/
def advance (s : Session σ) (milliseconds : Nat) : Session σ :=
  { s with clock := s.clock + milliseconds }.settle devices |>.noticeTime

/-- The time at which the present wait passes its limit, if it has one. -/
def deadline? (s : Session σ) : Option Nat :=
  match s.progress with
  | .waiting goal since => (goal.limit? s.config).map (since + ·)
  | _ => none

/-- Waits for the end of the session. When there is nothing to do until the deadline of a wait,
time passes up to it. -/
def join (s : Session σ) : Session σ :=
  let s := s.settle devices
  match s.deadline? with
  | some deadline => { s with clock := max s.clock deadline }.noticeTime.settle devices
  | none => s

end DvbReceiver.Session
