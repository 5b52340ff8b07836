import DvbReceiver.Proofs.Session.Runs

/-!
# What a step does

A step of a session is one of eleven actions (`Action`, `action_of_step?`). Each is a function of
the session, applied to what the session has come to, together with the reason for it. What is
proved about these functions one by one is so proved about every step.

The time that has passed is noticed only now and then. A session that has nothing left to do even
when it notices the time `Rests`.
-/

namespace DvbReceiver

namespace Session

variable {σ : Type} (devices : Devices σ) {s t : Session σ}

theorem live_of_waiting {goal : Goal} {since : Nat} (h : s.progress = .waiting goal since) :
    s.outcome? = none := by
  rw [outcome?, h]

theorem ne_finished_of_live (h : s.outcome? = none) (outcome : Outcome) :
    s.progress ≠ .finished outcome := by
  intro hprogress
  rw [outcome?, hprogress] at h
  cases h

/-- What a step of a session does, and why. -/
inductive Action (s : Session σ) : Session σ → Prop
  /-- The tuner is asked to lock. -/
  | begins (hprogress : s.progress = .starting) : Action s (s.begin devices)
  /-- There is nothing to take, and a wait has passed its limit. -/
  | expires {goal : Goal} {since limit : Nat} (hprogress : s.progress = .waiting goal since)
    (hqueue : s.queue = []) (hlimit : s.passedLimit? goal since = some limit) :
    Action s (s.finish devices (.error (.timeout s.phase limit)))
  /-- The application wants the session to end. -/
  | ends {goal : Goal} {since : Nat} {rest : List Signal}
    (hprogress : s.progress = .waiting goal since) (hqueue : s.queue = .shutdown :: rest) :
    Action s ((s.take .shutdown rest).finish devices (.ok ()))
  /-- The tuner is locked. -/
  | opens {since : Nat} {rest : List Signal} (hprogress : s.progress = .waiting .locked since)
    (hqueue : s.queue = .tunerStatus .locked :: rest) :
    Action s ((s.take (.tunerStatus .locked) rest).findPat devices)
  /-- The PAT is there. -/
  | adopts {since : Nat} {rest : List Signal} {pat : Pat}
    (hprogress : s.progress = .waiting .pat since) (hqueue : s.queue = .tableArrived .pat :: rest)
    (hfresh : s.registry.fresh? .pat s.mark = some (.pat pat)) :
    Action s ((s.take (.tableArrived .pat) rest).adoptPat devices pat)
  /-- The PMT of the selected service is there. -/
  | binds {since : Nat} {rest : List Signal} {pmt : Pmt}
    (hprogress : s.progress = .waiting (.pmt pmt.programNumber) since)
    (hqueue : s.queue = .tableArrived .pmt :: rest)
    (hfresh : s.registry.fresh? .pmt s.mark = some (.pmt pmt)) :
    Action s ((s.take (.tableArrived .pmt) rest).bindStreams devices pmt)
  /-- The UTC time is there. -/
  | dates {since : Nat} {rest : List Signal} {tdt : Tdt} {utc : DateTime}
    (hprogress : s.progress = .waiting .tdt since) (hqueue : s.queue = .tableArrived .tdt :: rest)
    (hfresh : s.registry.fresh? .tdt s.mark = some (.tdt tdt)) (hutc : tdt.utc? = some utc) :
    Action s ((s.take (.tableArrived .tdt) rest).findTot devices utc)
  /-- The offset from the UTC time is there. -/
  | resolves {since : Nat} {rest : List Signal} {utc : DateTime} {capturedAt : Int} {tot : Tot}
    (hprogress : s.progress = .waiting (.tot utc capturedAt) since)
    (hqueue : s.queue = .tableArrived .tot :: rest)
    (hfresh : s.registry.fresh? .tot s.mark = some (.tot tot)) :
    Action s ((s.take (.tableArrived .tot) rest).resolveTime devices utc capturedAt tot)
  /-- A channel request is put off. -/
  | defers {goal : Goal} {since : Nat} {rest : List Signal} {request : ChannelRequest}
    (hprogress : s.progress = .waiting goal since)
    (hqueue : s.queue = .channelChange request :: rest) (hgoal : goal.Defers) :
    Action s { s.take (.channelChange request) rest with deferred := s.deferred ++ [request] }
  /-- A channel request is followed. -/
  | follows {goal : Goal} {since : Nat} {rest : List Signal} {request : ChannelRequest}
    {index : Nat} (hprogress : s.progress = .waiting goal since)
    (hqueue : s.queue = .channelChange request :: rest) (hgoal : ¬goal.Defers)
    (hnext : Channel.next? s.index s.services.length request = some index) :
    Action s ({ s.take (.channelChange request) rest with index }.findPmt devices)
  /-- A signal is passed over. -/
  | passes {goal : Goal} {since : Nat} {signal : Signal} {rest : List Signal}
    (hprogress : s.progress = .waiting goal since) (hqueue : s.queue = signal :: rest)
    (hsignal : signal ≠ .shutdown)
    (hrequest : ∀ request, signal = .channelChange request →
      ¬goal.Defers ∧ Channel.next? s.index s.services.length request = none) :
    Action s (s.take signal rest)

/-- A session that is over does nothing. -/
theorem Action.live (h : Action devices s t) : s.outcome? = none := by
  cases h with
  | begins hprogress => rw [outcome?, hprogress]
  | _ => apply live_of_waiting; assumption

/-- The action on a signal that meets the goal. -/
theorem action_of_met? {goal : Goal} {since : Nat} {signal : Signal} {rest : List Signal}
    {arrival : Arrival} (hprogress : s.progress = .waiting goal since)
    (hqueue : s.queue = signal :: rest)
    (hmet : goal.met? s.registry s.mark signal = some arrival) :
    Action devices s ((s.take signal rest).proceed devices arrival) := by
  unfold Goal.met? at hmet
  split at hmet
  · cases hmet
    exact .opens hprogress hqueue
  · obtain ⟨pat, hfresh, rfl⟩ := Option.map_eq_some_iff.1 hmet
    exact .adopts hprogress hqueue (by rw [Registry.fresh?, hfresh, Option.map_some])
  · next programNumber =>
    obtain ⟨pmt, hfresh, rfl⟩ := Option.map_eq_some_iff.1 hmet
    obtain ⟨hfound, hnumber⟩ := Option.filter_eq_some_iff.1 hfresh
    obtain rfl : pmt.programNumber = programNumber := by simpa using hnumber
    exact .binds hprogress hqueue (Registry.after?_pmt_eq_some_iff.1 hfound)
  · obtain ⟨utc, hfresh, rfl⟩ := Option.map_eq_some_iff.1 hmet
    obtain ⟨tdt, hfresh, hutc⟩ := Option.bind_eq_some_iff.1 hfresh
    exact .dates hprogress hqueue (by rw [Registry.fresh?, hfresh, Option.map_some]) hutc
  · obtain ⟨tot, hfresh, rfl⟩ := Option.map_eq_some_iff.1 hmet
    exact .resolves hprogress hqueue (by rw [Registry.fresh?, hfresh, Option.map_some])
  · cases hmet

/-- The action on a signal that does not. -/
theorem action_of_met?_eq_none {goal : Goal} {since : Nat} {signal : Signal} {rest : List Signal}
    (hprogress : s.progress = .waiting goal since) (hqueue : s.queue = signal :: rest)
    (hmet : goal.met? s.registry s.mark signal = none) :
    Action devices s ((s.take signal rest).react devices goal signal) := by
  unfold react
  rw [show goal.met? (s.take signal rest).registry (s.take signal rest).mark signal = none
    from hmet]
  cases signal with
  | tunerStatus status => exact .passes hprogress hqueue (by rintro ⟨⟩) (by rintro _ ⟨⟩)
  | tableArrived kind => exact .passes hprogress hqueue (by rintro ⟨⟩) (by rintro _ ⟨⟩)
  | shutdown => exact .ends hprogress hqueue
  | channelChange request =>
    simp only [changeChannel]
    split
    · next hgoal => exact .defers hprogress hqueue hgoal
    · next hgoal =>
      split
      · next index hnext => exact .follows hprogress hqueue hgoal hnext
      · next hnext =>
        refine .passes hprogress hqueue (by rintro ⟨⟩) fun request' heq => ⟨hgoal, ?_⟩
        rw [Signal.channelChange.injEq] at heq
        rw [← heq]
        exact hnext

/-- **Every step is an action.** -/
theorem action_of_step? (hstep : s.step? devices = some t) : Action devices s t := by
  rcases hprogress : s.progress with _ | ⟨goal, since⟩ | outcome
  · rw [step?, hprogress] at hstep
    cases hstep
    exact .begins hprogress
  · rcases hqueue : s.queue with _ | ⟨signal, rest⟩
    · rw [step?, hprogress, hqueue] at hstep
      obtain ⟨limit, hlimit, rfl⟩ := Option.map_eq_some_iff.1 hstep
      exact .expires hprogress hqueue hlimit
    · rw [step?_of_cons devices hprogress hqueue, Option.some.injEq] at hstep
      subst hstep
      rcases hmet : goal.met? s.registry s.mark signal with _ | arrival
      · exact action_of_met?_eq_none devices hprogress hqueue hmet
      · rw [react_of_met? devices hmet]
        exact action_of_met? devices hprogress hqueue hmet
  · rw [step?, hprogress] at hstep
    cases hstep

/-! ## Having nothing to do -/

/-- The session has nothing left to do, even if it notices all the time that has passed. -/
def Rests (s : Session σ) : Prop := s.noticeTime.step? devices = none

/-- A session that waits with nothing to take goes on when a limit has passed and is noticed. -/
theorem step?_of_nil {goal : Goal} {since : Nat} (hprogress : s.progress = .waiting goal since)
    (hqueue : s.queue = []) :
    s.step? devices = (s.passedLimit? goal since).map fun limit =>
      s.finish devices (.error (.timeout s.phase limit)) := by
  rw [step?, hprogress, hqueue]

end Session

end DvbReceiver
