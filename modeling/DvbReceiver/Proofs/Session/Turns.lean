import DvbReceiver.Proofs.Session.Actions
import DvbReceiver.Proofs.Session.Course

/-!
# Turns

A step of a session is one of eleven turns (`Turn`, `turn_of_step?`), and a move that is no step
leaves the session where it stands (`Stays`, `Move.step_or_stays`). So what each turn keeps, and
what stays the same between them, is kept by every run.
-/

namespace DvbReceiver

open Journal

namespace Session

variable {σ : Type} (devices : Devices σ) {s t : Session σ}

/-- What a step of a session is. Where it takes a signal, what follows starts from there. -/
inductive Turn (s : Session σ) : Session σ → Prop
  /-- The tuner is asked to lock. -/
  | begins {t : Session σ} (hprogress : s.progress = .starting)
    (h : s.GoesFor .locked .tunerLocking patPid t) : Turn s t
  /-- A wait has passed its limit. -/
  | expires {goal : Goal} {since limit : Nat} (hprogress : s.progress = .waiting goal since) :
    Turn s (s.finish devices (.error (.timeout s.phase limit)))
  /-- The application wants the session to end. -/
  | ends {goal : Goal} {since : Nat} {rest : List Signal}
    (hprogress : s.progress = .waiting goal since) (hqueue : s.queue = .shutdown :: rest) :
    Turn s ((s.take .shutdown rest).finish devices (.ok ()))
  /-- The tuner is locked. -/
  | opens {t : Session σ} {since : Nat} {rest : List Signal}
    (hprogress : s.progress = .waiting .locked since)
    (hqueue : s.queue = .tunerStatus .locked :: rest)
    (h : (s.take (.tunerStatus .locked) rest).GoesFor .pat .awaitingPat patPid t) : Turn s t
  /-- The PAT is there. -/
  | adopts {since : Nat} {rest : List Signal} {pat : Pat}
    (hprogress : s.progress = .waiting .pat since) (hqueue : s.queue = .tableArrived .pat :: rest)
    (hfresh : s.registry.fresh? .pat s.mark = some (.pat pat)) :
    Turn s ((s.take (.tableArrived .pat) rest).adoptPat devices pat)
  /-- The PMT of the selected service is there. -/
  | binds {t : Session σ} {programNumber since : Nat} {rest : List Signal}
    (hprogress : s.progress = .waiting (.pmt programNumber) since)
    (hqueue : s.queue = .tableArrived .pmt :: rest)
    (h : (s.take (.tableArrived .pmt) rest).GoesOn t) : Turn s t
  /-- The UTC time is there. -/
  | dates {t : Session σ} {since : Nat} {rest : List Signal} {tdt : Tdt} {utc : DateTime}
    (hprogress : s.progress = .waiting .tdt since) (hqueue : s.queue = .tableArrived .tdt :: rest)
    (hfresh : s.registry.fresh? .tdt s.mark = some (.tdt tdt)) (hutc : tdt.utc? = some utc)
    (h : (s.take (.tableArrived .tdt) rest).GoesFor (.tot utc (1000000 * s.clock)) .awaitingTot
      timePid t) : Turn s t
  /-- The offset from the UTC time is there. -/
  | resolves {t : Session σ} {since : Nat} {rest : List Signal} {utc : DateTime} {capturedAt : Int}
    {tot : Tot} (hprogress : s.progress = .waiting (.tot utc capturedAt) since)
    (hqueue : s.queue = .tableArrived .tot :: rest)
    (hfresh : s.registry.fresh? .tot s.mark = some (.tot tot))
    (h : (s.take (.tableArrived .tot) rest).Resolves
      (.ofLocal (LocalTime.resolve utc (some tot) s.config.countryCode) capturedAt) t) : Turn s t
  /-- A channel request is put off. -/
  | defers {goal : Goal} {since : Nat} {rest : List Signal} {request : ChannelRequest}
    (hprogress : s.progress = .waiting goal since)
    (hqueue : s.queue = .channelChange request :: rest) (hgoal : goal.Defers) :
    Turn s { s.take (.channelChange request) rest with deferred := s.deferred ++ [request] }
  /-- A channel request is followed. -/
  | follows {goal : Goal} {since : Nat} {rest : List Signal} {request : ChannelRequest}
    {index : Nat}
    (hprogress : s.progress = .waiting goal since)
    (hqueue : s.queue = .channelChange request :: rest) (hgoal : ¬goal.Defers)
    (hnext : Channel.next? s.index s.services.length request = some index) :
    Turn s ({ s.take (.channelChange request) rest with index }.findPmt devices)
  /-- A signal is passed over. -/
  | passes {goal : Goal} {since : Nat} {signal : Signal} {rest : List Signal}
    (hprogress : s.progress = .waiting goal since) (hqueue : s.queue = signal :: rest)
    (hrequest : ∀ request, signal = .channelChange request →
      ¬goal.Defers ∧ Channel.next? s.index s.services.length request = none) :
    Turn s (s.take signal rest)

/-- A session that is over takes no turn. -/
theorem Turn.live (h : Turn devices s t) : s.outcome? = none := by
  cases h with
  | begins hprogress => rw [outcome?, hprogress]
  | _ => apply live_of_waiting; assumption

/-- **Every step is a turn.** -/
theorem turn_of_step? (hstep : s.step? devices = some t) : Turn devices s t := by
  have haction := action_of_step? devices hstep
  have hlive : ∀ signal rest, (s.take signal rest).outcome? = none := fun _ _ =>
    haction.live devices
  cases haction with
  | begins hprogress =>
    exact .begins hprogress (goesFor_begin devices (by rw [outcome?, hprogress]) patPid)
  | expires hprogress => exact .expires hprogress
  | ends hprogress hqueue => exact .ends hprogress hqueue
  | opens hprogress hqueue => exact .opens hprogress hqueue (goesFor_findPat devices (hlive _ _))
  | adopts hprogress hqueue hfresh => exact .adopts hprogress hqueue hfresh
  | binds hprogress hqueue =>
    exact .binds hprogress hqueue (goesOn_bindStreams devices (hlive _ _) _)
  | dates hprogress hqueue hfresh hutc =>
    exact .dates hprogress hqueue hfresh hutc (goesFor_findTot devices (hlive _ _) _)
  | resolves hprogress hqueue hfresh =>
    exact .resolves hprogress hqueue hfresh (resolves_resolveTime devices (hlive _ _) _ _ _)
  | defers hprogress hqueue hgoal => exact .defers hprogress hqueue hgoal
  | follows hprogress hqueue hgoal hnext => exact .follows hprogress hqueue hgoal hnext
  | passes hprogress hqueue _ hrequest => exact .passes hprogress hqueue hrequest

/-! ## The settings -/

theorem course_findPmt (hlive : s.outcome? = none) : s.SameCourse (s.findPmt devices) := by
  rcases hservice : s.services[s.index]? with _ | service
  · rw [findPmt, hservice]
    exact (course_finish devices hlive _).1
  · exact (goesFor_findPmt devices hlive hservice).course

/-- A PAT that has services to select is taken up. -/
theorem adoptPat_eq {pat : Pat} (hcount : Channel.first < pat.serviceCount) :
    s.adoptPat devices pat =
      { s with
        services := pat.services.items
        index := s.deferred.foldl (Channel.step pat.serviceCount)
          (Channel.initial pat.serviceCount s.config.initialChannel)
        deferred := [] }.findPmt devices :=
  if_neg (Nat.not_le.2 hcount)

theorem adoptPat_of_le {pat : Pat} (hcount : pat.serviceCount ≤ Channel.first) :
    s.adoptPat devices pat = s.finish devices (.error .noServices) :=
  if_pos hcount

theorem config_adoptPat (hlive : s.outcome? = none) (pat : Pat) :
    (s.adoptPat devices pat).config = s.config := by
  unfold adoptPat
  extract_lets count
  split
  · exact (course_finish devices hlive _).1.config
  · refine (course_findPmt devices ?_).config
    exact hlive

/-- The settings never change. -/
theorem Turn.config_eq (h : Turn devices s t) : t.config = s.config := by
  cases h with
  | begins _ h => exact h.course.config
  | expires hprogress => exact (course_finish devices (live_of_waiting hprogress) _).1.config
  | ends hprogress =>
    exact (course_finish devices (s := s.take _ _) (live_of_waiting hprogress) _).1.config
  | opens _ _ h => exact h.course.config
  | adopts hprogress =>
    exact config_adoptPat devices (s := s.take _ _) (live_of_waiting hprogress) _
  | binds _ _ h => exact h.course.config
  | dates _ _ _ _ h => exact h.course.config
  | resolves _ _ _ h => exact h.config
  | defers => rfl
  | @follows _ _ rest request index hprogress =>
    exact (course_findPmt devices (s := { s.take (.channelChange request) rest with index })
      (live_of_waiting hprogress)).config
  | passes => rfl

/-! ## Between the turns -/

/-- The session stands where it stood, whatever has been delivered to it. -/
structure Stays (s t : Session σ) : Prop where
  course : s.SameCourse t
  phase : t.phase = s.phase
  progress : t.progress = s.progress
  adds : s.Adds Entry.Aside t

theorem Stays.of_journal (hcourse : s.SameCourse t) (hphase : t.phase = s.phase)
    (hprogress : t.progress = s.progress) (hjournal : t.journal = s.journal) : s.Stays t :=
  ⟨hcourse, hphase, hprogress, Adds.of_eq hjournal⟩

theorem stays_deliver (s : Session σ) (delivery : Delivery) : s.Stays (s.deliver delivery) := by
  rcases hlive : s.outcome? with _ | outcome
  · obtain ⟨entries, hcalls, heq⟩ := exists_deliver hlive delivery
    rw [heq]
    exact ⟨⟨rfl, rfl, rfl, rfl, rfl⟩, rfl, rfl, entries, rfl, hcalls.aside (List.forall_mem_nil _)⟩
  · obtain ⟨tables, heq⟩ := exists_deliver_of_outcome? hlive delivery
    rw [heq]
    refine ⟨⟨rfl, rfl, rfl, rfl, rfl⟩, rfl, rfl, _, rfl, ?_⟩
    rw [List.forall_mem_map]
    exact fun table _ => ⟨rfl, rfl, rfl⟩

theorem Move.step_or_stays (h : Move devices s t) :
    s.step? devices = some t ∨ s.Stays t := by
  cases h with
  | step h => exact Or.inl h
  | deliver delivery => exact Or.inr (stays_deliver s delivery)
  | volume level =>
    exact Or.inr ⟨⟨rfl, rfl, rfl, rfl, rfl⟩, rfl, rfl, [_], rfl,
      List.forall_mem_singleton.2 ⟨rfl, rfl, rfl⟩⟩
  | wait milliseconds => exact Or.inr (.of_journal ⟨rfl, rfl, rfl, rfl, rfl⟩ rfl rfl rfl)
  | notice => exact Or.inr (.of_journal ⟨rfl, rfl, rfl, rfl, rfl⟩ rfl rfl rfl)
  | hardware hardware => exact Or.inr (.of_journal ⟨rfl, rfl, rfl, rfl, rfl⟩ rfl rfl rfl)

theorem config_of_reachable {config : Config} (h : Reachable devices config s) :
    s.config = config := by
  obtain ⟨hardware, hrun⟩ := h
  induction hrun with
  | refl => rfl
  | tail _ hmove ih =>
    rcases hmove.step_or_stays with hstep | hstays
    · exact ((turn_of_step? devices hstep).config_eq devices).trans ih
    · exact hstays.course.config.trans ih

/-- Nothing changes how a session has ended. -/
theorem Move.progress_of_finished {outcome : Outcome} (h : Move devices s t)
    (hprogress : s.progress = .finished outcome) : t.progress = .finished outcome := by
  rcases h.step_or_stays with hstep | hstays
  · have hlive := (action_of_step? devices hstep).live devices
    rw [outcome?, hprogress] at hlive
    cases hlive
  · exact hstays.progress.trans hprogress

theorem progress_of_finished {outcome : Outcome} (hprogress : s.progress = .finished outcome)
    (hrun : Run devices s t) : t.progress = .finished outcome := by
  induction hrun with
  | refl => exact hprogress
  | tail _ hmove ih => exact hmove.progress_of_finished devices ih

end Session

end DvbReceiver
