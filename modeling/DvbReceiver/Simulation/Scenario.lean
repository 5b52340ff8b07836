import DvbReceiver.Report
import DvbReceiver.Session.Handle
import DvbReceiver.Simulation.Script

/-!
# Scenarios

A scenario runs a session on scripted hardware through a list of steps, and takes a snapshot
after each: the step's result, the events since the snapshot before, what the application's
handle shows, and what the registry holds. Between steps the session does all that it can
without time passing; the steps of a batch are taken without a pause.
-/

namespace DvbReceiver.Simulation

/-- A change to the script while the session runs. -/
inductive Change
  | canned (sections : List CannedSection)
  | lockStatuses (statuses : List LockStatus)
  | lockFailures (errors : List DeviceError)
  | openFailures (errors : List DeviceError)
  | filterFailures (failures : List FilterFailure)
  | streamFailures (failures : List StreamFailure)

/-- The script after a change. -/
def Change.apply (script : Script) : Change → Script
  | .canned sections => { script with canned := sections }
  | .lockStatuses statuses => { script with lockStatuses := statuses }
  | .lockFailures errors => { script with lockFailures := errors }
  | .openFailures errors => { script with openFailures := errors }
  | .filterFailures failures => { script with filterFailures := failures }
  | .streamFailures failures => { script with streamFailures := failures }

/-- One thing that is done to a session. -/
inductive Step
  | pause
  | deliver (delivery : Delivery)
  | advance (milliseconds : Nat)
  | request (request : ChannelRequest)
  | volume (level : Nat)
  | change (change : Change)
  | report
  /-- Gives up the handle without waiting for the end. -/
  | drop
  | shutdown
  | join
  | batch (steps : List Step)

/-- What a step results in. -/
inductive Result
  | nothing
  | done
  | failed (error : SessionError)
  | report (report : Json)
  | batch (results : List Result)

/-- The result of something that succeeds or fails. -/
def Result.ofOutcome : Outcome → Result
  | .ok () => done
  | .error error => failed error

/-- A session and the application around it. -/
structure Scene where
  session : Session Hardware
  /-- The application still has its handle on the session. -/
  attached : Bool := true
  /-- The application ignores channel notifications. -/
  quiet : Bool := false

namespace Scene

/-- Makes a change to the script. -/
def change (scene : Scene) (change : Change) : Scene :=
  { scene with session.hardware.script := change.apply scene.session.hardware.script }

/-- Gives up the handle and waits for the end of the session. -/
def joined (scene : Scene) (session : Session Hardware) : Scene × Result :=
  let session := session.join devices
  ({ scene with session, attached := false },
    match session.outcome? with
    | some outcome => .ofOutcome outcome
    | none => .nothing)

mutual

/-- Takes a step. What needs the handle does nothing once it is given up. -/
def perform (scene : Scene) : Step → Scene × Result
  | .pause => (scene, .nothing)
  | .deliver delivery => ({ scene with session := scene.session.deliver delivery }, .nothing)
  | .advance milliseconds =>
    ({ scene with session := scene.session.advance devices milliseconds }, .nothing)
  | .change change => (scene.change change, .nothing)
  | .report => (scene, .report (Report.registry scene.session.registry))
  | .batch steps =>
    let (scene, results) := scene.performAll steps
    (scene, .batch results)
  | .request request =>
    if scene.attached then
      let (result, session) := scene.session.request request
      ({ scene with session }, .ofOutcome result)
    else (scene, .nothing)
  | .volume level =>
    if scene.attached then
      ({ scene with session := scene.session.publishVolume level }, .nothing)
    else (scene, .nothing)
  | .drop =>
    if scene.attached then
      ({ scene with session := scene.session.shutdown, attached := false }, .nothing)
    else (scene, .nothing)
  | .shutdown => if scene.attached then scene.joined scene.session.shutdown else (scene, .nothing)
  | .join => if scene.attached then scene.joined scene.session else (scene, .nothing)

/-- Takes steps without a pause. -/
def performAll (scene : Scene) : List Step → Scene × List Result
  | [] => (scene, [])
  | step :: steps =>
    let (scene, result) := scene.perform step
    let (scene, results) := scene.performAll steps
    (scene, result :: results)

end

end Scene

/-- What the application's handle shows. -/
structure View where
  phase : Phase
  channel : Option ChannelInfo
  finished : Bool

/-- What there is to see after a step. -/
structure Snapshot where
  result : Result
  /-- The events since the snapshot before. -/
  events : List Event
  /-- What the handle shows, unless it is given up. -/
  view : Option View
  sequence : Nat
  tables : List TableKind

namespace Scene

/-- The events that the application notices. -/
def noticed (scene : Scene) : List Event :=
  scene.session.events.filter fun
    | .channelBound _ => !scene.quiet
    | _ => true

/-- A snapshot of the scene, where `seen` is the number of events known before. -/
def snapshot (scene : Scene) (seen : Nat) (result : Result) : Snapshot where
  result
  events := scene.noticed.drop seen
  view := if scene.attached then
      some {
        phase := scene.session.phase
        channel := scene.session.channel
        finished := scene.session.outcome?.isSome }
    else none
  sequence := scene.session.registry.sequence
  tables := scene.session.registry.tables.map Table.kind

/-- The snapshots after each of the steps. -/
def play (scene : Scene) (seen : Nat) : List Step → List Snapshot
  | [] => []
  | step :: steps =>
    let (scene, result) := scene.perform step
    let scene := { scene with session := scene.session.settle devices }
    scene.snapshot seen result :: scene.play scene.noticed.length steps

end Scene

/-- A session to be run, and the steps to take. -/
structure Scenario where
  config : Config
  script : Script
  quiet : Bool := false
  steps : List Step

/-- The snapshots of a scenario. The first is taken before the session has done anything. -/
def Scenario.snapshots (scenario : Scenario) : List Snapshot :=
  let scene : Scene :=
    { session := .start scenario.config { script := scenario.script }
      quiet := scenario.quiet }
  scene.snapshot 0 .nothing :: scene.play scene.noticed.length scenario.steps

end DvbReceiver.Simulation
