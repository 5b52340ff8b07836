import DvbReceiver.Proofs.Session.Situation

/-!
# How a session goes on

`x.Continues y` says all that the functions of a session have in common: they enter the phase of
the next goal and wait for that from now on, or a call fails, or there is no service to look for.
Whatever they do, nothing but the last of it ends the session (`Entry.Steady`).

* `upshot_of_step?`: a step ends a session at its limit or by a shutdown, or it continues, or takes
  a signal and waits on;
* `begun_of_reachable`: every wait began with the step that entered the present phase, at the time
  of that step.
-/

namespace DvbReceiver

open Journal

namespace Event

/-- The error of a call that failed. -/
def failure? : Event → Option DeviceError
  | lock _ (.error error) | setFilter _ _ (.error error) | openSource (.error error)
  | createStream _ _ (.error error) => some error
  | _ => none

/-- Whether the event is a call that asks for something. -/
def acquires : Event → Bool
  | lock .. | setFilter .. | openSource _ | createStream .. => true
  | _ => false

end Event

/-- The entry does not bring a session to its end. -/
structure Entry.Steady (entry : Entry) : Prop where
  taken : entry ≠ .took .shutdown
  ended : ∀ outcome, entry ≠ .ended outcome
  failure : ∀ event, entry = .event event → event.failure? = none

/-- The entry notes that a signal was taken or a volume shown. -/
def Entry.Idle (entry : Entry) : Prop :=
  (∃ signal, entry = .took signal) ∨ ∃ level, entry = .event (.volumeChanged level)

theorem Entry.steady_event {event : Event} (h : event.failure? = none) :
    (Entry.event event).Steady :=
  ⟨by rintro ⟨⟩, by rintro _ ⟨⟩, by rintro _ ⟨⟩; exact h⟩

theorem Entry.steady_entered (phase : Phase) : (Entry.entered phase).Steady :=
  ⟨by rintro ⟨⟩, by rintro _ ⟨⟩, by rintro _ ⟨⟩⟩

theorem Entry.steady_took {signal : Signal} (h : signal ≠ .shutdown) : (Entry.took signal).Steady :=
  ⟨fun heq => h (Entry.took.inj heq), by rintro _ ⟨⟩, by rintro _ ⟨⟩⟩

/-- What gives something back neither fails nor asks for anything. -/
theorem Holdings.failure?_of_mem_releases {held : Holdings} {event : Event}
    (h : event ∈ held.releases) : event.failure? = none ∧ event.acquires = false := by
  simp only [releases, filterRelease, videoRelease, audioRelease, sourceRelease, tunerRelease,
    List.mem_append, List.mem_map, List.mem_ite_nil_right, List.mem_singleton] at h
  rcases h with (((⟨_, -, rfl⟩ | ⟨_, -, rfl⟩) | ⟨_, -, rfl⟩) | ⟨-, rfl⟩) | ⟨-, rfl⟩ <;>
    exact ⟨rfl, rfl⟩

/-- The phases in which a goal is waited for. -/
def Goal.InPhase : Goal → Phase → Prop
  | locked, phase => phase = .tunerLocking
  | pat, phase => phase = .awaitingPat
  | pmt _, phase => phase = .awaitingPmt
  | tdt, phase => phase = .awaitingTdt
  | tot _ _, phase => phase = .awaitingTot
  | request, phase => phase = .streamsBound ∨ phase = .timeResolved

namespace Situation

variable {x y z : Situation} {deeds : List Entry} {goal : Goal} {phase : Phase}

/-- `y` comes after `x` by steady deeds, and no time has passed. -/
structure Adds (x : Situation) (deeds : List Entry) (y : Situation) : Prop where
  eq : y.deeds = x.deeds ++ deeds
  steady : ∀ entry ∈ deeds, entry.Steady
  clock : y.clock = x.clock
  alarm : y.alarm = x.alarm

theorem Adds.refl (x : Situation) : x.Adds [] x :=
  ⟨(List.append_nil _).symm, List.forall_mem_nil _, rfl, rfl⟩

theorem Adds.append {more : List Entry} (h : x.Adds deeds y) (hmore : ∀ entry ∈ more, entry.Steady)
    (heq : z.deeds = y.deeds ++ more) (hclock : z.clock = y.clock) (halarm : z.alarm = y.alarm) :
    x.Adds (deeds ++ more) z where
  eq := by rw [heq, h.eq, List.append_assoc]
  steady := List.forall_mem_append.2 ⟨h.steady, hmore⟩
  clock := hclock.trans h.clock
  alarm := halarm.trans h.alarm

theorem Adds.of_eq (h : x.Adds deeds y) (heq : z.deeds = y.deeds) (hclock : z.clock = y.clock)
    (halarm : z.alarm = y.alarm) : x.Adds deeds z :=
  ⟨heq.trans h.eq, h.steady, hclock.trans h.clock, halarm.trans h.alarm⟩

theorem Adds.note {entry : Entry} (h : x.Adds deeds y) (hentry : entry.Steady) :
    x.Adds (deeds ++ [entry]) (y.note entry) :=
  h.append (List.forall_mem_singleton.2 hentry) rfl rfl rfl

theorem Adds.make {events : List Event} {held : Holdings} (h : x.Adds deeds y)
    (hevents : ∀ event ∈ events, event ∈ y.held.releases) :
    x.Adds (deeds ++ events.map .event) (y.make events held) := by
  refine h.append ?_ rfl rfl rfl
  rw [List.forall_mem_map]
  exact fun event hmem =>
    Entry.steady_event (Holdings.failure?_of_mem_releases (hevents event hmem)).1

theorem Adds.enter (h : x.Adds deeds y) (phase : Phase) :
    x.Adds (deeds ++ [.entered phase]) (y.enter phase) :=
  h.append (List.forall_mem_singleton.2 (Entry.steady_entered phase)) rfl rfl rfl

theorem Adds.hold (h : x.Adds deeds y) (held : Holdings) : x.Adds deeds (y.hold held) :=
  h.of_eq rfl rfl rfl

theorem Adds.await (h : x.Adds deeds y) (goal : Goal) : x.Adds deeds (y.await goal) :=
  h.of_eq rfl rfl rfl

/-- The phase is the last one that was entered. -/
def Enters (deeds : List Entry) (phase : Phase) : Prop :=
  ∃ before after, deeds = before ++ .entered phase :: after ∧ ∀ phase, .entered phase ∉ after

theorem enters_concat (deeds : List Entry) (phase : Phase) :
    Enters (deeds ++ [.entered phase]) phase :=
  ⟨deeds, [], rfl, fun _ => List.not_mem_nil⟩

theorem Enters.append {more : List Entry} (h : Enters deeds phase)
    (hmore : ∀ phase, .entered phase ∉ more) : Enters (deeds ++ more) phase := by
  obtain ⟨before, after, rfl, hafter⟩ := h
  refine ⟨before, after ++ more, by simp, fun phase hmem => ?_⟩
  exact (List.mem_append.1 hmem).elim (hafter phase) (hmore phase)

/-- The session goes on from a situation. -/
inductive Continues (x : Situation) : Situation → Prop
  /-- It enters the phase of a goal, programs a filter if it needs one, and waits from now on. -/
  | waits {y : Situation} {deeds : List Entry} {goal : Goal} (hadds : x.Adds deeds y)
    (henters : Enters deeds y.phase) (hgoal : goal.InPhase y.phase)
    (hfilter : ∀ kind, goal.kind? = some kind → ∃ before pid handle,
      deeds = before ++ [.event (.setFilter pid kind.tableId (.ok handle))])
    (hprogress : y.progress = .waiting goal x.clock) : Continues x y
  /-- A call fails. -/
  | fails {y : Situation} {deeds : List Entry} {event : Event} {error : DeviceError}
    (hadds : x.Adds deeds y) (hfailure : event.failure? = some error) :
    Continues x ((y.note (.event event)).finish (.error (.device error)))
  /-- There is no service to look for. -/
  | lacks {y : Situation} {deeds : List Entry} (hadds : x.Adds deeds y) :
    Continues x (y.finish (.error .noServices))

/-- A session that goes on waits from now on, or is over, but not for lack of time. -/
theorem Continues.progress (h : x.Continues y) :
    (∃ goal, y.progress = .waiting goal x.clock) ∨
      (∃ error, y.progress = .finished (.error (.device error))) ∨
      y.progress = .finished (.error .noServices) := by
  cases h with
  | waits _ _ _ _ hprogress => exact Or.inl ⟨_, hprogress⟩
  | fails => exact Or.inr (Or.inl ⟨_, rfl⟩)
  | lacks => exact Or.inr (Or.inr rfl)

/-- Going on takes no time. -/
theorem Continues.time (h : x.Continues y) : y.clock = x.clock ∧ y.alarm = x.alarm := by
  cases h with
  | waits hadds => exact ⟨hadds.clock, hadds.alarm⟩
  | fails hadds => exact ⟨hadds.clock, hadds.alarm⟩
  | lacks hadds => exact ⟨hadds.clock, hadds.alarm⟩

theorem Adds.tries {α : Type} {call : Except DeviceError α → Event}
    {go : α → Situation → Situation → Prop} (h : x.Adds deeds y)
    (hok : ∀ value, (call (.ok value)).failure? = none)
    (herror : ∀ error, (call (.error error)).failure? = some error)
    (hgo : ∀ value, x.Adds (deeds ++ [.event (call (.ok value))])
        (y.note (.event (call (.ok value)))) →
      go value (y.note (.event (call (.ok value)))) z → x.Continues z)
    (htries : y.Tries call go z) : x.Continues z := by
  cases htries with
  | succeeds value hnext => exact hgo value (h.note (Entry.steady_event (hok value))) hnext
  | fails error => exact .fails h (herror error)

theorem Adds.freeFilter (h : x.Adds deeds y) :
    x.Adds (deeds ++ y.held.filterRelease.map .event) y.freeFilter :=
  h.make fun event hmem => by simp [Holdings.releases, hmem]

theorem Adds.removeVideo (h : x.Adds deeds y) :
    x.Adds (deeds ++ y.held.videoRelease.map .event) y.removeVideo :=
  h.make fun event hmem => by simp [Holdings.releases, hmem]

theorem Adds.removeAudio (h : x.Adds deeds y) :
    x.Adds (deeds ++ y.held.audioRelease.map .event) y.removeAudio :=
  h.make fun event hmem => by simp [Holdings.releases, hmem]

theorem Adds.seeks {pid : Nat} {kind : TableKind} (h : x.Adds deeds y)
    (hseeks : y.Seeks pid kind goal z) (henters : Enters deeds y.phase)
    (hgoal : goal.InPhase y.phase) (hkind : goal.kind? = some kind) : x.Continues z := by
  refine h.freeFilter.tries (fun _ => rfl) (fun _ => rfl) ?_ hseeks
  rintro handle hadds rfl
  refine .waits ((hadds.hold _).await goal) ?_ hgoal ?_ (congrArg _ hadds.clock)
  · rw [List.append_assoc]
    exact henters.append (by simp)
  · intro kind' hkind'
    obtain rfl := Option.some.inj (hkind.symm.trans hkind')
    exact ⟨_, pid, handle, rfl⟩

theorem Adds.enter_seeks {pid : Nat} {kind : TableKind} (h : x.Adds deeds y)
    (hseeks : (y.enter phase).Seeks pid kind goal z) (hgoal : goal.InPhase phase)
    (hkind : goal.kind? = some kind) : x.Continues z :=
  (h.enter phase).seeks hseeks (enters_concat deeds phase) hgoal hkind

theorem Adds.begins {tuning : Tuning} (h : x.Adds deeds y) (hbegins : y.Begins tuning z) :
    x.Continues z := by
  refine (h.enter .tunerLocking).tries (fun _ => rfl) (fun _ => rfl) ?_ hbegins
  rintro value hadds rfl
  refine .waits ((hadds.hold _).await .locked) ?_ (by rfl) (by rintro _ ⟨⟩)
    (congrArg _ hadds.clock)
  exact (enters_concat deeds .tunerLocking).append (by simp)

theorem Adds.findsPat (h : x.Adds deeds y) (hfinds : y.FindsPat z) : x.Continues z := by
  refine (h.enter .awaitingPat).tries (fun _ => rfl) (fun _ => rfl) ?_ hfinds
  intro value hadds hseeks
  refine (hadds.hold _).seeks hseeks ?_ rfl rfl
  exact (enters_concat deeds .awaitingPat).append (by simp)

theorem Adds.findsPmt (h : x.Adds deeds y) (hfinds : y.FindsPmt z) : x.Continues z := by
  unfold FindsPmt at hfinds
  split at hfinds
  · rw [hfinds]
    exact .lacks h
  · exact h.enter_seeks hfinds rfl rfl

theorem Adds.findsTdt (h : x.Adds deeds y) (hfinds : y.FindsTdt z) : x.Continues z :=
  h.enter_seeks hfinds rfl rfl

theorem Adds.findsTot {utc : DateTime} (h : x.Adds deeds y) (hfinds : y.FindsTot utc z) :
    x.Continues z :=
  h.enter_seeks hfinds rfl rfl

theorem Adds.announces {channel : ChannelInfo} (h : x.Adds deeds y)
    (hannounces : y.Announces channel z) : x.Continues z := by
  have hshown : x.Adds deeds { y with channel := some channel } := h.of_eq rfl rfl rfl
  have hadds := (hshown.enter .streamsBound).note
    (Entry.steady_event (show (Event.channelBound channel).failure? = none from rfl))
  unfold Announces at hannounces
  extract_lets shown at hannounces
  split at hannounces
  · rw [hannounces]
    refine .waits (hadds.await .request) ?_ (by exact Or.inl rfl) (by rintro _ ⟨⟩)
      (congrArg _ hadds.clock)
    exact (enters_concat deeds .streamsBound).append (by simp)
  · exact hadds.findsTdt hannounces

theorem Adds.creates {stream : Option Pmt.Stream}
    {go : Option (Nat × StreamHandle) → Situation → Situation → Prop} (h : x.Adds deeds y)
    (hcreates : y.Creates stream go z)
    (hgo : ∀ found more w, x.Adds more w → go found w z → x.Continues z) : x.Continues z := by
  unfold Creates at hcreates
  split at hcreates
  · exact hgo none deeds y h hcreates
  · exact h.tries (fun _ => rfl) (fun _ => rfl) (fun handle hadds => hgo _ _ _ hadds) hcreates

theorem Adds.bindsStreams {pmt : Pmt} (h : x.Adds deeds y) (hbinds : y.BindsStreams pmt z) :
    x.Continues z := by
  unfold BindsStreams BindsVideo BindsAudio at hbinds
  refine h.removeVideo.removeAudio.creates hbinds fun video more w hadds hbinds => ?_
  refine (hadds.hold _).creates hbinds fun audio more w hadds hannounces => ?_
  exact (hadds.hold _).announces hannounces

theorem Adds.resolveTime (h : x.Adds deeds y) (time : ResolvedTime) :
    x.Continues (y.resolveTime time) := by
  have hresolved : x.Adds _ { y.freeFilter with timeIsResolved := true } :=
    h.freeFilter.of_eq rfl rfl rfl
  have hadds := (hresolved.enter .timeResolved).note
    (Entry.steady_event (show (Event.timeResolved time).failure? = none from rfl))
  refine .waits (hadds.await .request) ?_ (by exact Or.inr rfl) (by rintro _ ⟨⟩)
    (congrArg _ hadds.clock)
  exact (enters_concat _ .timeResolved).append (by simp)

end Situation

namespace Session

variable {σ : Type} (devices : Devices σ) {s t u : Session σ} {goal : Goal} {since : Nat}

/-! ## Steps -/

/-- What comes of a step. -/
inductive Upshot (s : Session σ) : Session σ → Prop
  /-- There is nothing to take, and a wait has passed its limit. -/
  | expires {goal : Goal} {since limit : Nat} (hprogress : s.progress = .waiting goal since)
    (hqueue : s.queue = []) (hlimit : s.passedLimit? goal since = some limit) :
    Upshot s (s.finish devices (.error (.timeout s.phase limit)))
  /-- The application wants the session to end. -/
  | ends {rest : List Signal} (hlive : s.outcome? = none) (hqueue : s.queue = .shutdown :: rest) :
    Upshot s ((s.take .shutdown rest).finish devices (.ok ()))
  | continues {t : Session σ} (h : s.situation.Continues t.situation) : Upshot s t
  /-- A signal is taken, and the wait goes on. -/
  | stays {t : Session σ} {signal : Signal} (hsignal : signal ≠ .shutdown)
    (h : t.situation = s.situation.note (.took signal)) : Upshot s t

theorem adds_take {signal : Signal} (hsignal : signal ≠ .shutdown) (rest : List Signal) :
    s.situation.Adds [.took signal] (s.take signal rest).situation := by
  rw [situation_take]
  exact (Situation.Adds.refl s.situation).note (Entry.steady_took hsignal)

theorem continues_findPmt {x : Situation} {deeds : List Entry} (hlive : s.outcome? = none)
    (h : x.Adds deeds s.situation) : x.Continues (s.findPmt devices).situation :=
  h.findsPmt (findsPmt_findPmt devices hlive)

theorem continues_adoptPat {x : Situation} {deeds : List Entry} (hlive : s.outcome? = none)
    (h : x.Adds deeds s.situation) (pat : Pat) :
    x.Continues (s.adoptPat devices pat).situation := by
  by_cases hcount : Channel.first < pat.serviceCount
  · rw [adoptPat_eq devices hcount]
    exact continues_findPmt devices (by exact hlive) (h.of_eq rfl rfl rfl)
  · rw [adoptPat_of_le devices (Nat.not_lt.1 hcount), situation_finish devices hlive]
    exact .lacks h

theorem upshot_of_step? (hstep : s.step? devices = some t) : Upshot devices s t := by
  have haction := action_of_step? devices hstep
  have hlive := haction.live devices
  have htaken : ∀ signal rest, (s.take signal rest).outcome? = none := fun _ _ => hlive
  have harrived : ∀ kind rest, s.situation.Adds [.took (.tableArrived kind)]
      (s.take (.tableArrived kind) rest).situation := fun _ => adds_take (by rintro ⟨⟩)
  cases haction with
  | begins => exact .continues ((Situation.Adds.refl _).begins (begins_begin devices hlive))
  | expires hprogress hqueue hlimit => exact .expires hprogress hqueue hlimit
  | ends _ hqueue => exact .ends hlive hqueue
  | opens =>
    exact .continues ((adds_take (by rintro ⟨⟩) _).findsPat (findsPat_findPat devices (htaken _ _)))
  | adopts => exact .continues (continues_adoptPat devices (htaken _ _) (harrived _ _) _)
  | binds =>
    exact .continues
      ((harrived _ _).bindsStreams (bindsStreams_bindStreams devices (htaken _ _) _))
  | dates =>
    exact .continues ((harrived _ _).findsTot (findsTot_findTot devices (htaken _ _) _))
  | resolves =>
    refine .continues ?_
    rw [situation_resolveTime devices (htaken _ _)]
    exact (harrived _ _).resolveTime _
  | @defers _ _ rest request =>
    exact .stays (by rintro ⟨⟩) (situation_take s (.channelChange request) rest)
  | @follows _ _ rest request index =>
    have hadds : s.situation.Adds [.took (.channelChange request)] _ :=
      adds_take (by rintro ⟨⟩) rest
    exact .continues (continues_findPmt devices
      (s := { s.take (.channelChange request) rest with index }) hlive (hadds.of_eq rfl rfl rfl))
  | @passes _ _ signal rest _ _ hsignal => exact .stays hsignal (situation_take s signal rest)

/-- A step takes no time. -/
theorem Upshot.time (h : Upshot devices s t) : t.clock = s.clock ∧ t.alarm = s.alarm := by
  cases h with
  | expires hprogress =>
    have heq := situation_finish devices (live_of_waiting hprogress)
    exact ⟨congrArg Situation.clock (heq _), congrArg Situation.alarm (heq _)⟩
  | @ends rest hlive =>
    have heq := situation_finish devices (s := s.take .shutdown rest) hlive
    exact ⟨congrArg Situation.clock (heq _), congrArg Situation.alarm (heq _)⟩
  | continues hcontinues => exact hcontinues.time
  | stays _ heq => exact ⟨congrArg Situation.clock heq, congrArg Situation.alarm heq⟩

/-! ## Waits -/

/-- The present wait of `s` began with the step from `r` to `t`. -/
structure Begun (s r t : Session σ) (goal : Goal) (since : Nat) : Prop where
  step : r.step? devices = some t
  run : Run devices t s
  clock : r.clock = since
  progress : t.progress = .waiting goal since
  /-- The step entered the present phase, and programmed the filter if there is one. -/
  entered : ∃ entered, deeds t.journal = deeds r.journal ++ entered ∧
    Situation.Enters entered s.phase ∧
    ∀ kind, goal.kind? = some kind → ∃ before pid handle,
      entered = before ++ [.event (.setFilter pid kind.tableId (.ok handle))]
  /-- Since then signals were taken and volumes shown. -/
  later : ∃ later, deeds s.journal = deeds t.journal ++ later ∧ ∀ entry ∈ later, entry.Idle

theorem Begun.append {r : Session σ} {later : List Entry} (h : Begun devices s r t goal since)
    (hmove : Move devices s u) (hphase : u.phase = s.phase)
    (hdeeds : deeds u.journal = deeds s.journal ++ later) (hlater : ∀ entry ∈ later, entry.Idle) :
    Begun devices u r t goal since where
  step := h.step
  run := h.run.tail hmove
  clock := h.clock
  progress := h.progress
  entered := hphase ▸ h.entered
  later := by
    obtain ⟨earlier, heq, hearlier⟩ := h.later
    exact ⟨earlier ++ later, by rw [hdeeds, heq, List.append_assoc],
      List.forall_mem_append.2 ⟨hearlier, hlater⟩⟩

/-- **A wait begins when its phase is entered**, and nothing but the entry of a phase begins a
wait. -/
theorem begun_of_reachable {config : Config} (h : Reachable devices config s)
    (hprogress : s.progress = .waiting goal since) :
    goal.InPhase s.phase ∧ ∃ r t, Reachable devices config r ∧ Begun devices s r t goal since := by
  obtain ⟨hardware, hrun⟩ := h
  induction hrun generalizing goal since with
  | refl => cases hprogress
  | @tail s u hrun hmove ih =>
    -- a move after which the session waits as before
    have hkept : ∀ later, u.progress = s.progress → u.phase = s.phase →
        deeds u.journal = deeds s.journal ++ later → (∀ entry ∈ later, entry.Idle) →
        goal.InPhase u.phase ∧
          ∃ r t, Reachable devices config r ∧ Begun devices u r t goal since := by
      intro later hsame hphase hdeeds hlater
      obtain ⟨hgoal, r, t, hreach, hbegun⟩ := ih (hsame ▸ hprogress)
      exact ⟨hphase ▸ hgoal, r, t, hreach, hbegun.append devices hmove hphase hdeeds hlater⟩
    rcases hmove.step_or_idle with hstep | ⟨pause, alarm, levels, -, hidle⟩
    · cases upshot_of_step? devices hstep with
      | expires => cases hprogress
      | ends => cases hprogress
      | continues hcontinues =>
        have hwaiting : u.situation.progress = .waiting goal since := hprogress
        generalize hu : u.situation = y at hcontinues hwaiting
        cases hcontinues with
        | fails => cases hwaiting
        | lacks => cases hwaiting
        | waits hadds henters hgoal hfilter hbegins =>
          cases hbegins.symm.trans hwaiting
          subst hu
          exact ⟨hgoal, s, u, ⟨hardware, hrun⟩, hstep, .refl, rfl, hprogress,
            ⟨_, hadds.eq, henters, hfilter⟩, [], (List.append_nil _).symm, List.forall_mem_nil _⟩
      | @stays _ signal _ hu =>
        exact hkept [.took signal] (congrArg Situation.progress hu)
          (congrArg Situation.phase hu) (congrArg Situation.deeds hu)
          (List.forall_mem_singleton.2 (Or.inl ⟨signal, rfl⟩))
    · refine hkept _ (congrArg Situation.progress hidle) (congrArg Situation.phase hidle)
        (congrArg Situation.deeds hidle) (List.forall_mem_map.2 fun level _ => ?_)
      exact Or.inr ⟨level, rfl⟩

/-- Before a session begins, it is idle. -/
theorem phase_of_starting {config : Config} (h : Reachable devices config s)
    (hprogress : s.progress = .starting) : s.phase = .idle := by
  obtain ⟨hardware, hrun⟩ := h
  induction hrun with
  | refl => rfl
  | @tail s u hrun hmove ih =>
    rcases hmove.step_or_idle with hstep | ⟨pause, alarm, levels, -, hidle⟩
    · cases upshot_of_step? devices hstep with
      | expires => cases hprogress
      | ends => cases hprogress
      | continues hcontinues =>
        rcases hcontinues.progress with ⟨goal, hwaiting⟩ | ⟨error, hover⟩ | hover
        · cases hprogress.symm.trans hwaiting
        · cases hprogress.symm.trans hover
        · cases hprogress.symm.trans hover
      | stays _ hu =>
        have hsame : u.progress = s.progress := congrArg Situation.progress hu
        exact (congrArg Situation.phase hu).trans (ih (hsame.symm.trans hprogress))
    · have hsame : u.progress = s.progress := congrArg Situation.progress hidle
      exact (congrArg Situation.phase hidle).trans (ih (hsame.symm.trans hprogress))

end Session

end DvbReceiver
