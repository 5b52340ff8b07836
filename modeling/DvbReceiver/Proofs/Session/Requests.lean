import DvbReceiver.Proofs.Channel
import DvbReceiver.Proofs.Session.Turns
import DvbReceiver.Proofs.Simulation.Runs

/-!
# Channel requests take effect once and in order

Which service is selected depends on the channel requests alone, and on their order. It does not
matter when they come: requests before the PAT are put off (`PutsOff`), later ones are followed at
once (`Follows`), and the selected index is what they make of the index to begin with
(`index_eq_of_adopts`).
-/

namespace DvbReceiver

open Journal

/-- The channel requests among signals. -/
def requests (signals : List Signal) : List ChannelRequest := signals.filterMap Signal.request?

theorem requests_append (signals later : List Signal) :
    requests (signals ++ later) = requests signals ++ requests later := List.filterMap_append

namespace Channel

/-- The channel after requests, one after another, from the one to begin with. -/
def after (count wanted : Nat) (requests : List ChannelRequest) : Nat :=
  requests.foldl (step count) (initial count wanted)

theorem after_concat (count wanted : Nat) (requests : List ChannelRequest)
    (request : ChannelRequest) :
    after count wanted (requests ++ [request]) = step count (after count wanted requests) request :=
  List.foldl_concat ..

theorem bounds_step {current count : Nat} (request : ChannelRequest)
    (hcurrent : first ≤ current ∧ current < count) :
    first ≤ step count current request ∧ step count current request < count := by
  unfold step
  rcases hnext : next? current count request with _ | index
  · exact hcurrent
  · exact bounds_of_next? hcurrent hnext

theorem bounds_initial {count : Nat} (wanted : Nat) (hcount : first < count) :
    first ≤ initial count wanted ∧ initial count wanted < count := by
  unfold initial
  split
  · assumption
  · exact ⟨Nat.le_refl _, hcount⟩

/-- The channel after requests is one that there is. -/
theorem bounds_after {count : Nat} (wanted : Nat) (requests : List ChannelRequest)
    (hcount : first < count) :
    first ≤ after count wanted requests ∧ after count wanted requests < count := by
  induction requests using List.reverseRecOn with
  | nil => exact bounds_initial wanted hcount
  | append_singleton requests request ih =>
    rw [after_concat]
    exact bounds_step request ih

end Channel

theorem Entry.Toward.taken {goal : Goal} {pid : Nat} {entry : Entry}
    (h : entry.Toward goal pid) : entry.taken? = none := by
  rcases h with h | ⟨kind, result, -, rfl⟩
  · exact h.taken
  · rfl

namespace Session

variable {σ : Type} (devices : Devices σ) {s t u : Session σ} {pat : Pat}

theorem Adds.taken_eq {Q : Entry → Prop} (h : s.Adds Q t)
    (hq : ∀ entry, Q entry → entry.taken? = none) : taken t.journal = taken s.journal := by
  obtain ⟨entries, heq, hentries⟩ := h
  have hnone : taken entries = [] :=
    List.filterMap_eq_nil_iff.2 fun entry hmem => hq entry (hentries entry hmem)
  rw [heq, taken_append, hnone, List.append_nil]

/-- The requests that have been taken from the queue. -/
def asked (s : Session σ) : List ChannelRequest := requests (taken s.journal)

theorem asked_take (s : Session σ) (signal : Signal) (rest : List Signal) :
    (s.take signal rest).asked = s.asked ++ signal.request?.toList := by
  have htaken : taken (s.take signal rest).journal = taken s.journal ++ [signal] := by
    rw [take, record, taken_append, taken_singleton]
    rfl
  rw [asked, htaken, requests_append, asked]
  cases signal <;> rfl

theorem asked_eq_of_aside (h : s.Adds Entry.Aside t) : t.asked = s.asked :=
  congrArg requests (h.taken_eq fun _ haside => haside.taken)

theorem GoesFor.asked_eq {goal : Goal} {phase : Phase} {pid : Nat}
    (h : s.GoesFor goal phase pid t) : t.asked = s.asked :=
  congrArg requests (h.adds.taken_eq fun _ htoward => htoward.taken)

theorem Resolves.asked_eq {time : ResolvedTime} (h : s.Resolves time t) : t.asked = s.asked := by
  obtain ⟨mid, hjournal, hmid⟩ := h.journal
  have hadds : s.Adds (fun entry => entry.taken? = none) t := by
    refine ⟨mid ++ [.event (.timeResolved time)], by rw [hjournal, List.append_assoc], ?_⟩
    rw [List.forall_mem_append, List.forall_mem_singleton]
    exact ⟨fun entry hmem => (hmid entry hmem).taken, rfl⟩
  exact congrArg requests (hadds.taken_eq fun _ => id)

/-! ## Before the PAT -/

/-- The session has no PAT yet. -/
def Early (s : Session σ) : Prop :=
  s.progress = .starting ∨ ∃ goal since, s.progress = .waiting goal since ∧ goal.Defers

theorem not_early_of_waiting {goal : Goal} {since : Nat} (h : s.progress = .waiting goal since)
    (hgoal : ¬goal.Defers) : ¬s.Early := by
  rintro (hstart | ⟨goal', since', hwaiting, hdefers⟩)
  · cases h.symm.trans hstart
  · cases h.symm.trans hwaiting
    exact hgoal hdefers

theorem not_early_of_finished {outcome : Outcome} (h : s.progress = .finished outcome) :
    ¬s.Early := by
  rintro (hstart | ⟨goal, since, hwaiting, -⟩)
  · cases h.symm.trans hstart
  · cases h.symm.trans hwaiting

theorem GoesFor.not_early {goal : Goal} {phase : Phase} {pid : Nat}
    (h : s.GoesFor goal phase pid t) (hgoal : ¬goal.Defers) : ¬t.Early := by
  rcases h.progress with ⟨since, hprogress, -⟩ | ⟨error, hprogress⟩
  · exact not_early_of_waiting hprogress hgoal
  · exact not_early_of_finished hprogress

/-- A session that goes for the lock or the PAT is still early. -/
theorem GoesFor.early {goal : Goal} {phase : Phase} {pid : Nat} (h : s.GoesFor goal phase pid t)
    (hgoal : goal.Defers) :
    t.Early ∨ ∃ error, t.progress = .finished (.error (.device error)) :=
  h.progress.imp_left fun ⟨since, hprogress, _⟩ => Or.inr ⟨goal, since, hprogress, hgoal⟩

theorem not_early_findPmt (hlive : s.outcome? = none) : ¬(s.findPmt devices).Early := by
  rcases hservice : s.services[s.index]? with _ | service
  · rw [findPmt, hservice]
    exact not_early_of_finished rfl
  · exact (goesFor_findPmt devices hlive hservice).not_early (by simp [Goal.Defers])

theorem not_early_adoptPat (hlive : s.outcome? = none) (pat : Pat) :
    ¬(s.adoptPat devices pat).Early := by
  unfold adoptPat
  extract_lets count
  split
  · exact not_early_of_finished rfl
  · refine not_early_findPmt devices ?_
    exact hlive

theorem GoesOn.not_early (h : s.GoesOn t) : ¬t.Early := by
  unfold GoesOn at h
  split at h
  · exact h.not_early (by decide)
  · exact h.not_early (by decide)

/-- While there is no PAT, the requests that were taken have been put off. -/
def PutsOff (s : Session σ) : Prop := s.Early → s.deferred = s.asked

theorem putsOff_of_turn (h : Turn devices s t) (hs : s.PutsOff) : t.PutsOff := by
  intro hearly
  cases h with
  | begins hprogress h =>
    rw [h.course.deferred, h.asked_eq, hs (Or.inl hprogress)]
  | expires => exact absurd hearly (not_early_of_finished rfl)
  | ends => exact absurd hearly (not_early_of_finished rfl)
  | opens hprogress _ h =>
    rw [h.course.deferred, h.asked_eq, asked_take, ← hs (Or.inr ⟨_, _, hprogress, Or.inl rfl⟩)]
    exact (List.append_nil _).symm
  | adopts hprogress =>
    exact absurd hearly
      (not_early_adoptPat devices (s := s.take _ _) (live_of_waiting hprogress) _)
  | binds _ _ h => exact absurd hearly h.not_early
  | dates _ _ _ _ h => exact absurd hearly (h.not_early (by simp [Goal.Defers]))
  | resolves _ _ _ h =>
    obtain ⟨since, hprogress⟩ := h.progress
    exact absurd hearly (not_early_of_waiting hprogress (by decide))
  | @defers goal since rest request hprogress _ hgoal =>
    have hasked := asked_take s (.channelChange request) rest
    rw [← hs (Or.inr ⟨goal, since, hprogress, hgoal⟩)] at hasked
    exact hasked.symm
  | @follows _ _ rest request index hprogress =>
    exact absurd hearly (not_early_findPmt devices
      (s := { s.take (.channelChange request) rest with index }) (live_of_waiting hprogress))
  | @passes goal since signal rest hprogress _ hrequest =>
    have hgoal : goal.Defers := by
      by_contra hgoal
      exact not_early_of_waiting (s := s.take signal rest) hprogress hgoal hearly
    have hnone : signal.request? = none := by
      cases signal with
      | channelChange request => exact absurd hgoal (hrequest request rfl).1
      | _ => rfl
    rw [asked_take, hnone, ← hs (Or.inr ⟨goal, since, hprogress, hgoal⟩)]
    exact (List.append_nil _).symm

theorem putsOff_of_stays (h : s.Stays t) (hs : s.PutsOff) : t.PutsOff := by
  intro hearly
  rw [Early, h.progress] at hearly
  rw [h.course.deferred, asked_eq_of_aside h.adds, hs hearly]

theorem putsOff_of_reachable {config : Config} (h : Reachable devices config s) : s.PutsOff := by
  obtain ⟨hardware, hrun⟩ := h
  induction hrun with
  | refl => exact fun _ => rfl
  | tail _ hmove ih =>
    rcases hmove.step_or_stays with hstep | hstays
    · exact putsOff_of_turn devices (turn_of_step? devices hstep) ih
    · exact putsOff_of_stays hstays ih

/-! ## From the PAT on -/

/-- The index selected by the requests that have been taken, among the services of the PAT. -/
structure Selected (pat : Pat) (s : Session σ) : Prop where
  services : s.services = pat.services.items
  index : s.index = Channel.after pat.serviceCount s.config.initialChannel s.asked

theorem Selected.of_course (h : s.Selected pat) (hcourse : s.SameCourse t)
    (hasked : t.asked = s.asked) : t.Selected pat where
  services := hcourse.services.trans h.services
  index := by rw [hcourse.index, hcourse.config, hasked, h.index]

theorem Selected.services_length (h : s.Selected pat) : s.services.length = pat.serviceCount := by
  rw [h.services, Pat.serviceCount]

/-- A signal that is no request to follow leaves the selection. -/
theorem Selected.take (h : s.Selected pat) (signal : Signal) (rest : List Signal)
    (hsignal : ∀ request, signal = .channelChange request →
      Channel.next? s.index s.services.length request = none) :
    (s.take signal rest).Selected pat where
  services := h.services
  index := by
    have hindex : (s.take signal rest).index =
      Channel.after pat.serviceCount s.config.initialChannel s.asked := h.index
    have hconfig : (s.take signal rest).config = s.config := rfl
    rw [hindex, hconfig, asked_take]
    cases signal with
    | channelChange request =>
      have hnone := hsignal request rfl
      rw [h.services_length, h.index] at hnone
      rw [Signal.request?, Option.toList_some, Channel.after_concat, Channel.step, hnone]
      rfl
    | _ => exact congrArg _ (List.append_nil _).symm

/-- A request that is followed selects what it leads to. -/
theorem Selected.follow (h : s.Selected pat) {request : ChannelRequest} {index : Nat}
    (rest : List Signal)
    (hnext : Channel.next? s.index s.services.length request = some index) :
    { s.take (.channelChange request) rest with index }.Selected pat where
  services := h.services
  index := by
    have hasked : { s.take (.channelChange request) rest with index }.asked =
        s.asked ++ [request] :=
      asked_take s (.channelChange request) rest
    rw [h.services_length, h.index] at hnext
    rw [hasked, Channel.after_concat, Channel.step]
    exact (congrArg (Option.getD · _) hnext).symm

theorem Selected.bounds (h : s.Selected pat) (hcount : Channel.first < pat.serviceCount) :
    Channel.first ≤ s.index ∧ s.index < pat.serviceCount := by
  rw [h.index]
  exact Channel.bounds_after _ _ hcount

/-- The session has the PAT and follows the requests that it takes, or it is over, but not for want
of services. -/
inductive Follows (pat : Pat) (s : Session σ) : Prop
  | waiting {goal : Goal} {since : Nat} (hprogress : s.progress = .waiting goal since)
    (hgoal : ¬goal.Defers) (hselected : s.Selected pat)
  | finished {outcome : Outcome} (hprogress : s.progress = .finished outcome)
    (houtcome : outcome ≠ .error .noServices)

theorem Selected.follows_of_goesFor {goal : Goal} {phase : Phase} {pid : Nat} (h : s.Selected pat)
    (hgoal : ¬goal.Defers) (hgoes : s.GoesFor goal phase pid t) : t.Follows pat := by
  rcases hgoes.progress with ⟨since, hprogress, -⟩ | ⟨error, hprogress⟩
  · exact .waiting hprogress hgoal (h.of_course hgoes.course hgoes.asked_eq)
  · exact .finished hprogress (by rintro ⟨⟩)

theorem Selected.follows_of_goesOn (h : s.Selected pat) (hgoes : s.GoesOn t) : t.Follows pat := by
  unfold GoesOn at hgoes
  split at hgoes
  · exact h.follows_of_goesFor (by decide) hgoes
  · exact h.follows_of_goesFor (by decide) hgoes

/-- Among the services of a PAT that has any to select, there is always one to look for. -/
theorem Selected.follows_findPmt (h : s.Selected pat) (hcount : Channel.first < pat.serviceCount)
    (hlive : s.outcome? = none) : (s.findPmt devices).Follows pat := by
  have hlt : s.index < s.services.length := by
    rw [h.services_length]
    exact (h.bounds hcount).2
  exact h.follows_of_goesFor (by simp [Goal.Defers])
    (goesFor_findPmt devices hlive (List.getElem?_eq_getElem hlt))

theorem follows_of_turn (h : Turn devices s t) (hs : s.Follows pat)
    (hcount : Channel.first < pat.serviceCount) : t.Follows pat := by
  cases hs with
  | finished hover =>
    have hlive := h.live
    rw [outcome?, hover] at hlive
    cases hlive
  | @waiting goal since hwaiting hgoal hselected =>
    cases h with
    | begins hprogress => cases hprogress.symm.trans hwaiting
    | expires => exact .finished rfl (by rintro ⟨⟩)
    | ends => exact .finished rfl (by rintro ⟨⟩)
    | opens hprogress =>
      cases hprogress.symm.trans hwaiting
      exact absurd (Or.inl rfl) hgoal
    | adopts hprogress =>
      cases hprogress.symm.trans hwaiting
      exact absurd (Or.inr rfl) hgoal
    | binds _ _ h => exact (hselected.take _ _ (by rintro _ ⟨⟩)).follows_of_goesOn h
    | dates _ _ _ _ h =>
      exact (hselected.take _ _ (by rintro _ ⟨⟩)).follows_of_goesFor (by simp [Goal.Defers]) h
    | @resolves _ _ rest _ _ _ _ _ _ h =>
      obtain ⟨since, hprogress⟩ := h.progress
      have htaken := hselected.take (.tableArrived .tot) rest (by rintro _ ⟨⟩)
      refine .waiting hprogress (by decide) ⟨h.services.trans htaken.services, ?_⟩
      rw [h.index, h.config, h.asked_eq]
      exact htaken.index
    | defers hprogress _ hdefers =>
      cases hprogress.symm.trans hwaiting
      exact absurd hdefers hgoal
    | follows _ _ _ hnext =>
      refine (hselected.follow _ hnext).follows_findPmt devices hcount ?_
      exact live_of_waiting hwaiting
    | passes _ _ hrequest =>
      exact .waiting hwaiting hgoal (hselected.take _ _ fun request heq => (hrequest request heq).2)

theorem follows_of_stays (h : s.Stays t) (hs : s.Follows pat) : t.Follows pat := by
  cases hs with
  | waiting hprogress hgoal hselected =>
    exact .waiting (h.progress.trans hprogress) hgoal
      (hselected.of_course h.course (asked_eq_of_aside h.adds))
  | finished hprogress houtcome => exact .finished (h.progress.trans hprogress) houtcome

theorem follows_of_run (hcount : Channel.first < pat.serviceCount) (hs : s.Follows pat)
    (h : Run devices s t) : t.Follows pat := by
  induction h with
  | refl => exact hs
  | tail _ hmove ih =>
    rcases hmove.step_or_stays with hstep | hstays
    · exact follows_of_turn devices (turn_of_step? devices hstep) ih hcount
    · exact follows_of_stays hstays ih

/-- In the step from `s` to `t` the session takes up the PAT. -/
structure Adopts (s : Session σ) (pat : Pat) (t : Session σ) : Prop where
  waiting : ∃ since, s.progress = .waiting .pat since
  arrived : ∃ rest, s.queue = .tableArrived .pat :: rest
  fresh : s.registry.fresh? .pat s.mark = some (.pat pat)
  step : s.step? devices = some t

theorem Adopts.exists_eq (h : Adopts devices s pat t) :
    ∃ rest, t = (s.take (.tableArrived .pat) rest).adoptPat devices pat := by
  obtain ⟨since, hwaiting⟩ := h.waiting
  obtain ⟨rest, hqueue⟩ := h.arrived
  have hstep := h.step
  rw [step?_of_cons devices hwaiting hqueue, react_of_met? devices (Goal.met?_pat h.fresh),
    Option.some.injEq] at hstep
  exact ⟨rest, hstep.symm⟩

/-- With the PAT the session follows the requests that it has put off. -/
theorem follows_of_adopts (hs : s.PutsOff) (hcount : Channel.first < pat.serviceCount)
    (h : Adopts devices s pat t) : t.Follows pat := by
  obtain ⟨since, hwaiting⟩ := h.waiting
  obtain ⟨rest, rfl⟩ := h.exists_eq devices
  have hasked : (s.take (.tableArrived .pat) rest).asked = s.asked := by
    rw [asked_take]
    exact List.append_nil _
  rw [adoptPat_eq devices hcount]
  refine Selected.follows_findPmt devices ⟨rfl, ?_⟩ hcount (live_of_waiting hwaiting)
  have hdeferred : s.deferred = s.asked := hs (Or.inr ⟨_, _, hwaiting, Or.inr rfl⟩)
  rw [← hdeferred] at hasked
  exact congrArg (Channel.after _ _) hasked.symm

/-- A session has no PAT yet, or is over but not for want of services, or has taken up a PAT. -/
theorem early_or_adopted {config : Config} (h : Reachable devices config s) :
    s.Early ∨ (∃ outcome, s.progress = .finished outcome ∧ outcome ≠ .error .noServices) ∨
      ∃ r pat t, Reachable devices config r ∧ Adopts devices r pat t ∧ Run devices t s := by
  obtain ⟨hardware, hrun⟩ := h
  induction hrun with
  | refl => exact Or.inl (Or.inl rfl)
  | @tail s u hrun hmove ih =>
    rcases ih with hearly | ⟨outcome, hover, hreason⟩ | ⟨r, pat, t, hreach, hadopts, hafter⟩
    · have hgoes : ∀ {v : Session σ} {goal phase pid}, v.GoesFor goal phase pid u → goal.Defers →
          u.Early ∨ ∃ outcome, u.progress = .finished outcome ∧ outcome ≠ .error .noServices :=
        fun hgoes hgoal => (hgoes.early hgoal).imp_right fun ⟨error, hprogress⟩ =>
          ⟨_, hprogress, by rintro ⟨⟩⟩
      have hlate : ∀ {goal since}, s.progress = .waiting goal since → ¬goal.Defers → False :=
        fun hprogress hgoal => not_early_of_waiting hprogress hgoal hearly
      rcases hmove.step_or_stays with hstep | hstays
      · cases turn_of_step? devices hstep with
        | begins _ hbegins => exact (hgoes hbegins (Or.inl rfl)).imp_right Or.inl
        | expires => exact Or.inr (Or.inl ⟨_, rfl, by rintro ⟨⟩⟩)
        | ends => exact Or.inr (Or.inl ⟨_, rfl, by rintro ⟨⟩⟩)
        | opens _ _ hopens => exact (hgoes hopens (Or.inr rfl)).imp_right Or.inl
        | adopts hprogress hqueue hfresh =>
          have hadopts : Adopts devices s _ _ := ⟨⟨_, hprogress⟩, ⟨_, hqueue⟩, hfresh, hstep⟩
          exact Or.inr (Or.inr ⟨s, _, _, ⟨hardware, hrun⟩, hadopts, .refl⟩)
        | binds hprogress => exact (hlate hprogress (by simp [Goal.Defers])).elim
        | dates hprogress => exact (hlate hprogress (by decide)).elim
        | resolves hprogress => exact (hlate hprogress (by simp [Goal.Defers])).elim
        | defers => exact Or.inl hearly
        | follows hprogress _ hgoal => exact (hlate hprogress hgoal).elim
        | passes => exact Or.inl hearly
      · refine Or.inl ?_
        rw [Early, hstays.progress]
        exact hearly
    · exact Or.inr (Or.inl ⟨outcome, hmove.progress_of_finished devices hover, hreason⟩)
    · exact Or.inr (Or.inr ⟨r, pat, t, hreach, hadopts, hafter.tail hmove⟩)

/-- **A session ends for want of services** if and only if the PAT that it takes up has none to
select. -/
theorem noServices_iff_of_adopts {config : Config} {r : Session σ}
    (hr : Reachable devices config r) (hadopts : Adopts devices r pat t) (hrun : Run devices t s) :
    s.progress = .finished (.error .noServices) ↔ pat.serviceCount ≤ 1 := by
  constructor
  · intro hprogress
    by_contra hcount
    have hcount : Channel.first < pat.serviceCount := Nat.not_le.1 hcount
    cases follows_of_run devices hcount
        (follows_of_adopts devices (putsOff_of_reachable devices hr) hcount hadopts) hrun with
    | waiting hwaiting => cases hwaiting.symm.trans hprogress
    | finished hover houtcome =>
      cases hover.symm.trans hprogress
      exact houtcome rfl
  · intro hcount
    obtain ⟨rest, rfl⟩ := hadopts.exists_eq devices
    refine progress_of_finished devices ?_ hrun
    rw [adoptPat_of_le devices hcount]
    rfl

/-- A session that does not put off requests has taken up a PAT, and has its services. -/
theorem exists_adopts_of_waiting {config : Config} {goal : Goal} {since : Nat}
    (h : Reachable devices config s) (hprogress : s.progress = .waiting goal since)
    (hgoal : ¬goal.Defers) :
    ∃ r pat t, Reachable devices config r ∧ Adopts devices r pat t ∧ Run devices t s ∧
      s.services = pat.services.items := by
  rcases early_or_adopted devices h with hearly | ⟨_, hover, -⟩ | ⟨r, pat, t, hr, hadopts, hrun⟩
  · exact absurd hearly (not_early_of_waiting hprogress hgoal)
  · cases hprogress.symm.trans hover
  · have hcount : Channel.first < pat.serviceCount := by
      refine Nat.not_le.1 fun hcount => ?_
      cases hprogress.symm.trans ((noServices_iff_of_adopts devices hr hadopts hrun).2 hcount)
    refine ⟨r, pat, t, hr, hadopts, hrun, ?_⟩
    cases follows_of_run devices hcount
        (follows_of_adopts devices (putsOff_of_reachable devices hr) hcount hadopts) hrun with
    | waiting _ _ hselected => exact hselected.services
    | finished hover => cases hprogress.symm.trans hover

/-- **Requests take effect once and in order**: from the PAT on, the selected service is the one
that all requests so far lead to, and it is always there. The first to be selected is the initial
channel of the settings if the PAT has it, and otherwise service 1. -/
theorem index_eq_of_adopts {config : Config} (h : Reachable devices config s)
    (hadopts : Adopts devices s pat t) (hcount : 2 ≤ pat.serviceCount) (hrun : Run devices t u) :
    u.outcome? ≠ some (.error .noServices) ∧
      (u.outcome? = none → 1 ≤ u.index ∧ u.index < pat.serviceCount ∧
        (u.queue = [] → u.index = (requests (queued u.journal)).foldl
          (fun index request => (Channel.next? index pat.serviceCount request).getD index)
          (if 1 ≤ config.initialChannel ∧ config.initialChannel < pat.serviceCount then
            config.initialChannel else 1))) := by
  have hreach : Reachable devices config u := by
    obtain ⟨hardware, hstart⟩ := h
    exact ⟨hardware, (hstart.tail (.step hadopts.step)).trans hrun⟩
  have hfollows := follows_of_run devices hcount
    (follows_of_adopts devices (putsOff_of_reachable devices h) hcount hadopts) hrun
  cases hfollows with
  | finished hprogress houtcome =>
    rw [outcome?, hprogress]
    exact ⟨fun h => houtcome (Option.some.inj h), fun h => by cases h⟩
  | waiting hprogress hgoal hselected =>
    rw [live_of_waiting hprogress]
    refine ⟨by rintro ⟨⟩, fun _ => ?_⟩
    obtain ⟨hfirst, hlast⟩ := hselected.bounds hcount
    refine ⟨hfirst, hlast, fun hqueue => ?_⟩
    -- with an empty queue, what was taken is all that was posted
    have haccounts := ((sound_of_reachable devices hreach).attends hprogress).1.accounts
    rw [haccounts.queued, hqueue, List.append_nil, hselected.index,
      config_of_reachable devices hreach]
    rfl

open Simulation Sample in
/-- One request before the PAT, and three of which one leads nowhere. They lead from the second
channel to the first, the second and back to the first. -/
theorem index_eq_of_requests :
    ∃ s t u : Session Hardware, Reachable Simulation.devices { initialChannel := 2 } s ∧
      Adopts Simulation.devices s programmes t ∧ 2 ≤ programmes.serviceCount ∧
      Run Simulation.devices t u ∧
      requests (queued u.journal) = [.up, .direct 7, .down, .up] ∧
      u.outcome? ≠ some (.error .noServices) ∧ t.index = 1 ∧ u.index = 1 ∧
      u.index = [ChannelRequest.up, .direct 7, .down, .up].foldl
        (fun index request => (Channel.next? index 3 request).getD index) 2 := by
  let found := ((start { initialChannel := 2 } Sample.hardware).deliver (.request .up)).takeSteps
    Simulation.devices 3
  let adopted := (found.take (.tableArrived .pat) []).react Simulation.devices .pat
    (.tableArrived .pat)
  let posted := ((adopted.deliver (.request (.direct 7))).deliver (.request .down)).deliver
    (.request .up)
  let played := posted.takeSteps Simulation.devices 3
  have hreach : Reachable Simulation.devices { initialChannel := 2 } found :=
    ⟨Sample.hardware, .head (.deliver _ _) (run_takeSteps _ _ 3)⟩
  have hwaiting : found.progress = .waiting .pat 0 := by decide +kernel
  have hqueue : found.queue = [.tableArrived .pat] := by decide +kernel
  have hadopts : Adopts Simulation.devices found programmes adopted :=
    ⟨⟨0, hwaiting⟩, ⟨[], hqueue⟩, by decide +kernel,
      step?_of_cons Simulation.devices hwaiting hqueue⟩
  have hposted : Run Simulation.devices adopted posted :=
    .head (.deliver _ _) (.head (.deliver _ _) (.single (.deliver _ _)))
  have hrun : Run Simulation.devices adopted played := hposted.trans (run_takeSteps _ posted 3)
  have hrequests : requests (queued played.journal) = [.up, .direct 7, .down, .up] := by
    decide +kernel
  obtain ⟨houtcome, hindex⟩ :=
    index_eq_of_adopts Simulation.devices hreach hadopts (by decide) hrun
  obtain ⟨-, -, heq⟩ := hindex (by decide +kernel)
  have heq := heq (by decide +kernel)
  rw [hrequests] at heq
  exact ⟨found, adopted, played, hreach, hadopts, by decide, hrun, hrequests, houtcome,
    by decide +kernel, heq.trans (by decide), heq⟩

end Session

end DvbReceiver
