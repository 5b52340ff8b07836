import DvbReceiver.Proofs.Session.Steps
import DvbReceiver.Session.Handle
import Mathlib.Logic.Relation

/-!
# Runs of a session

Between two steps of a session anything may happen: something is delivered, a volume is shown,
time passes and is noticed, and the hardware changes by itself. `Move` is one of these or a step,
in any order, and a session that some moves lead to from its start is `Reachable`.

* `sound_of_reachable`: a session that can be reached is `Sound`: it has not begun, or it waits for
  a goal that has not been met, or it is over, with all given back;
* `stepped_of_step?`: a step leads on, or takes a signal and leads on, or takes the arrival of an
  awaited PMT and binds its streams;
* `Move.step_or_idles`: a move that is no step changes nothing that a session has found or holds.
-/

namespace DvbReceiver

open Journal

namespace Session

variable {σ : Type} (devices : Devices σ) {s t : Session σ} {entries : List Entry}

/-! ## Sound sessions -/

/-- The session has ended: it gave back what it held then, and makes no calls any more. -/
structure Over (s : Session σ) (outcome : Outcome) : Prop where
  progress : s.progress = .finished outcome
  ended : ∃ before releases after held,
    s.journal = before ++ .ended outcome :: releases ++ .entered .tornDown :: after ∧
    Orderly (Journal.events before) held ∧ Calls held.releases releases ∧
    ∀ entry ∈ after, entry.Quiet

/-- What is true of a session at every moment between its steps. -/
inductive Sound (s : Session σ) : Prop
  | starting (hprogress : s.progress = .starting) (hs : s.Accounted) (hheld : s.held = {})
    (hcalls : ∀ event ∈ s.events, event.isCall = false)
  | waiting (hs : s.Accounted) (h : s.Waits)
  | finished {outcome : Outcome} (h : s.Over outcome)

/-- A sound session that waits for a goal attends to it. -/
theorem Sound.attends {goal : Goal} {since : Nat} (h : s.Sound)
    (hprogress : s.progress = .waiting goal since) : s.Accounted ∧ s.Attends goal := by
  cases h with
  | starting hstart => cases hprogress.symm.trans hstart
  | waiting hs hwaits =>
    obtain ⟨_, _, hgoal, hattends⟩ := hwaits
    cases hprogress.symm.trans hgoal
    exact ⟨hs, hattends⟩
  | finished hover => cases hprogress.symm.trans hover.progress

theorem over_finish (h : s.Accounted) (outcome : Outcome) :
    (s.finish devices outcome).Over outcome := by
  obtain ⟨hardware, entries, hcalls, heq⟩ := exists_finish devices h.live outcome
  rw [heq]
  exact ⟨rfl, s.journal, entries, [], s.held, rfl, h.accounts.orderly, hcalls, by simp⟩

theorem Leads.sound (h : Leads devices s Waits t) : t.Sound := by
  cases h with
  | goes _ ht hwaits => exact .waiting ht hwaits
  | ends _ ht outcome => exact .finished (over_finish devices ht outcome)

theorem sound_start (config : Config) (hardware : σ) : (start config hardware).Sound := by
  have horderly : Orderly [.subscribedToSections, .subscribedToLock] {} :=
    Orderly.nil.append (by simp [Event.isCall])
  refine .starting rfl ⟨rfl, rfl, rfl, ?_, ?_, horderly⟩ rfl ?_
  · intro table hmem
    cases hmem
  · intro before table after heq
    have hmem : Entry.stored table ∈ (start config hardware).journal := by simp [heq]
    simp [start] at hmem
  · simp [start, events, Entry.event?, Event.isCall]

/-! ## Steps -/

/-- What a step of a session is: it leads on, or takes a signal and leads on, or takes the arrival
of an awaited PMT and binds its streams. -/
inductive Stepped (s t : Session σ) : Prop
  | leads (h : Leads devices s Waits t)
  | took {signal : Signal} {rest : List Signal} (hqueue : s.queue = signal :: rest)
    (h : Leads devices (s.take signal rest) Waits t)
  | bound {pmt : Pmt} {since : Nat} {rest : List Signal}
    (hprogress : s.progress = .waiting (.pmt pmt.programNumber) since)
    (hqueue : s.queue = .tableArrived .pmt :: rest)
    (hfresh : s.registry.fresh? .pmt s.mark = some (.pmt pmt))
    (h : BindsTo devices (s.take (.tableArrived .pmt) rest) pmt t)

/-- A session that waits takes the first signal of its queue. -/
theorem step?_of_cons {goal : Goal} {since : Nat} {signal : Signal} {rest : List Signal}
    (hprogress : s.progress = .waiting goal since) (hqueue : s.queue = signal :: rest) :
    s.step? devices = some ((s.take signal rest).react devices goal signal) := by
  unfold step?
  split
  · next h => cases hprogress.symm.trans h
  · next h => cases hprogress.symm.trans h
  · next h =>
    cases hprogress.symm.trans h
    split
    · next hqueue' =>
      cases hqueue.symm.trans hqueue'
      rfl
    · next hqueue' => cases hqueue.symm.trans hqueue'

theorem stepped_of_step? (h : s.Sound) (hstep : s.step? devices = some t) :
    Stepped devices s t := by
  cases h with
  | starting hprogress hs hheld hcalls =>
    rw [step?, hprogress] at hstep
    cases hstep
    exact .leads (leads_begin devices hs hheld hcalls)
  | finished h =>
    rw [step?, h.progress] at hstep
    cases hstep
  | waiting hs h =>
    obtain ⟨goal, since, hprogress, hattends⟩ := h
    rcases hqueue : s.queue with _ | ⟨signal, rest⟩
    · rw [step?, hprogress, hqueue] at hstep
      obtain ⟨limit, -, rfl⟩ := Option.map_eq_some_iff.1 hstep
      exact .leads (.ends (Adds.of_eq rfl) hs _)
    · rw [step?_of_cons devices hprogress hqueue, Option.some.injEq] at hstep
      subst hstep
      rcases hmet : goal.met? s.registry s.mark signal with _ | arrival
      · exact .took hqueue (leads_of_met?_eq_none devices hs hprogress hqueue hattends hmet)
      · rw [react_of_met? devices hmet]
        rcases leads_or_binds_of_met? devices hs hqueue hattends hmet with
          hleads | ⟨pmt, rfl, rfl, hfresh, hbinds⟩
        · exact .took hqueue hleads
        · exact .bound hprogress hqueue hfresh hbinds

theorem Stepped.sound (h : Stepped devices s t) : t.Sound := by
  cases h with
  | leads h => exact h.sound
  | took _ h => exact h.sound
  | bound _ _ _ h => exact h.choose_spec.2.2.sound

theorem Stepped.adds (h : Stepped devices s t) : s.Adds (fun _ => True) t := by
  have htake : ∀ signal rest, s.Adds (fun _ => True) (s.take signal rest) :=
    fun signal rest => ⟨[.took signal], rfl, fun _ _ => trivial⟩
  cases h with
  | leads h => exact h.adds.imp fun _ _ => trivial
  | took _ h => exact (htake _ _).trans (h.adds.imp fun _ _ => trivial)
  | bound _ _ _ h =>
    obtain ⟨bound, hbound, -, hleads⟩ := h
    exact ((htake _ _).trans (hbound.imp fun _ _ => trivial)).trans
      (hleads.adds.imp fun _ _ => trivial)

/-! ## Moves -/

/-- One thing that may happen. -/
inductive Move : Session σ → Session σ → Prop
  /-- The session does the next thing there is to do. -/
  | step {s t : Session σ} (h : s.step? devices = some t) : Move s t
  /-- Something is handed to the session. -/
  | deliver (s : Session σ) (delivery : Delivery) : Move s (s.deliver delivery)
  /-- The application shows a volume. -/
  | volume (s : Session σ) (level : Nat) : Move s (s.publishVolume level)
  /-- Time passes. -/
  | wait (s : Session σ) (milliseconds : Nat) :
    Move s { s with clock := s.clock + milliseconds }
  /-- Limits that have passed are noticed. -/
  | notice (s : Session σ) : Move s s.noticeTime
  /-- The hardware changes by itself. -/
  | hardware (s : Session σ) (hardware : σ) : Move s { s with hardware }

/-- Moves, one after another. -/
abbrev Run : Session σ → Session σ → Prop := Relation.ReflTransGen (Move devices)

/-- A session that moves lead to from the start. -/
def Reachable (config : Config) (s : Session σ) : Prop :=
  ∃ hardware, Run devices (start config hardware) s

/-- A move that is no step only adds quiet entries, and leaves the aim and the progress. Signals
join the queue at its end. -/
structure Idles (s t : Session σ) : Prop where
  aim : s.SameAim t
  progress : t.progress = s.progress
  adds : s.Adds Entry.Quiet t
  queue : s.queue <+: t.queue
  accounted : s.Accounted → t.Accounted

theorem post_of_outcome? {outcome : Outcome} (h : s.outcome? = some outcome) (signal : Signal) :
    s.post signal = s := by
  simp [post, h]

/-- A session that is over still stores tables, and does nothing else with what is delivered. -/
theorem exists_deliver_of_outcome? {outcome : Outcome} (h : s.outcome? = some outcome)
    (delivery : Delivery) :
    ∃ tables : List Table, s.deliver delivery =
      { s with
        registry := tables.foldl Registry.store s.registry
        journal := s.journal ++ tables.map .stored } := by
  have hnone : s = { s with journal := s.journal ++ [] } := by rw [List.append_nil]
  cases delivery with
  | status status => exact ⟨[], (post_of_outcome? h _).trans hnone⟩
  | request request => exact ⟨[], (post_of_outcome? h _).trans hnone⟩
  | shutdown => exact ⟨[], (post_of_outcome? h _).trans hnone⟩
  | arrived bytes =>
    simp only [deliver, receive]
    split
    · next table _ => exact ⟨[table], post_of_outcome? (by exact h) _⟩
    · exact ⟨[], hnone⟩

theorem idles_deliver (s : Session σ) (delivery : Delivery) : Idles s (s.deliver delivery) := by
  rcases hlive : s.outcome? with _ | outcome
  · obtain ⟨entries, hcalls, heq⟩ := exists_deliver hlive delivery
    rw [heq]
    refine ⟨⟨rfl, rfl, rfl, rfl⟩, rfl, ⟨entries, rfl, ?_⟩, List.prefix_append _ _, fun h => ?_⟩
    · exact hcalls.forall_mem (by simp) (fun _ => ⟨rfl, by rintro _ ⟨⟩⟩)
        (fun _ => ⟨rfl, by rintro _ ⟨⟩⟩)
    · refine h.makes ⟨s.hardware, entries, hcalls, rfl⟩ ?_
      rw [List.append_nil]
      exact h.accounts.orderly
  · obtain ⟨tables, heq⟩ := exists_deliver_of_outcome? hlive delivery
    rw [heq]
    refine ⟨⟨rfl, rfl, rfl, rfl⟩, rfl, ⟨_, rfl, ?_⟩, List.prefix_rfl, fun h => ?_⟩
    · rw [List.forall_mem_map]
      exact fun table _ => ⟨rfl, by rintro _ ⟨⟩⟩
    · rw [h.live] at hlive
      cases hlive

theorem Move.step_or_idles (h : Move devices s t) : s.step? devices = some t ∨ Idles s t := by
  cases h with
  | step h => exact Or.inl h
  | deliver delivery => exact Or.inr (idles_deliver s delivery)
  | volume level =>
    refine Or.inr ⟨⟨rfl, rfl, rfl, rfl⟩, rfl, ⟨[_], rfl, ?_⟩, List.prefix_rfl,
      fun h => h.notify (by rfl)⟩
    rw [List.forall_mem_singleton]
    exact ⟨rfl, by rintro _ ⟨⟩; exact ⟨rfl, rfl⟩⟩
  | wait milliseconds =>
    exact Or.inr ⟨⟨rfl, rfl, rfl, rfl⟩, rfl, Adds.of_eq rfl, List.prefix_rfl,
      fun h => ⟨h.live, h.accounts⟩⟩
  | notice =>
    exact Or.inr ⟨⟨rfl, rfl, rfl, rfl⟩, rfl, Adds.of_eq rfl, List.prefix_rfl,
      fun h => ⟨h.live, h.accounts⟩⟩
  | hardware hardware =>
    exact Or.inr ⟨⟨rfl, rfl, rfl, rfl⟩, rfl, Adds.of_eq rfl, List.prefix_rfl,
      fun h => ⟨h.live, h.accounts⟩⟩

theorem Idles.sound (h : Idles s t) (hs : s.Sound) : t.Sound := by
  cases hs with
  | starting hprogress hs hheld hcalls =>
    refine .starting (h.progress.trans hprogress) (h.accounted hs) (h.aim.held.trans hheld) ?_
    obtain ⟨entries, hjournal, hquiet⟩ := h.adds
    intro event hmem
    rw [events, hjournal, List.filterMap_append, List.mem_append] at hmem
    exact hmem.elim (hcalls event) (events_of_quiet hquiet event)
  | waiting hs hwaits =>
    obtain ⟨goal, since, hprogress, hattends⟩ := hwaits
    obtain ⟨entries, hjournal, hquiet⟩ := h.adds
    exact .waiting (h.accounted hs)
      ⟨goal, since, h.progress.trans hprogress, hattends.append h.aim hjournal hquiet⟩
  | finished hover =>
    obtain ⟨entries, hjournal, hquiet⟩ := h.adds
    obtain ⟨before, releases, after, held, heq, horderly, hcalls, hafter⟩ := hover.ended
    refine .finished ⟨h.progress.trans hover.progress,
      before, releases, after ++ entries, held, ?_, horderly, hcalls, ?_⟩
    · rw [hjournal, heq]
      simp
    · intro entry hmem
      exact (List.mem_append.1 hmem).elim (hafter entry) (hquiet entry)

theorem sound_of_run (hs : s.Sound) (h : Run devices s t) : t.Sound := by
  induction h with
  | refl => exact hs
  | tail _ hmove ih =>
    rcases hmove.step_or_idles with hstep | hidles
    · exact (stepped_of_step? devices ih hstep).sound
    · exact hidles.sound ih

theorem sound_of_reachable {config : Config} (h : Reachable devices config s) : s.Sound := by
  obtain ⟨hardware, hrun⟩ := h
  exact sound_of_run devices (sound_start config hardware) hrun

/-- The journal only grows. -/
theorem adds_of_run (hs : s.Sound) (h : Run devices s t) : s.Adds (fun _ => True) t := by
  induction h with
  | refl => exact Adds.of_eq rfl
  | tail hrun hmove ih =>
    refine ih.trans ?_
    rcases hmove.step_or_idles with hstep | hidles
    · exact (stepped_of_step? devices (sound_of_run devices hs hrun) hstep).adds
    · exact hidles.adds.imp fun _ _ => trivial

/-- A session that has ended stays over. -/
theorem over_of_finished {config : Config} {outcome : Outcome} (h : Reachable devices config s)
    (hprogress : s.progress = .finished outcome) : s.Over outcome := by
  cases sound_of_reachable devices h with
  | starting hstart => cases hprogress.symm.trans hstart
  | waiting hs =>
    have hlive := hs.live
    rw [outcome?, hprogress] at hlive
    cases hlive
  | finished hover =>
    cases hprogress.symm.trans hover.progress
    exact hover

/-! ## What the application does is a run -/

/-- The session after so many steps, or fewer if it has to wait before. -/
def takeSteps (s : Session σ) : Nat → Session σ
  | 0 => s
  | n + 1 => (s.step? devices).elim s (takeSteps · n)

theorem run_takeSteps (s : Session σ) (n : Nat) : Run devices s (s.takeSteps devices n) := by
  induction n generalizing s with
  | zero => exact .refl
  | succ n ih =>
    rw [takeSteps]
    rcases hstep : s.step? devices with _ | t
    · exact .refl
    · exact .head (.step hstep) (ih t)

theorem run_request (s : Session σ) (request : ChannelRequest) :
    Run devices s (s.request request).2 := by
  unfold Session.request
  split
  · exact .refl
  · exact .single (.deliver s (.request request))

theorem run_shutdown (s : Session σ) : Run devices s s.shutdown :=
  .single (.deliver s .shutdown)

section Undisturbed

variable [devices.Undisturbed]

theorem settle_of_step? (h : s.step? devices = some t) : s.settle devices = t.settle devices := by
  rw [settle]
  split
  · next next hnext =>
    rw [h, Option.some.injEq] at hnext
    rw [hnext]
  · next hnone =>
    rw [h] at hnone
    cases hnone

theorem settle_of_step?_eq_none (h : s.step? devices = none) : s.settle devices = s := by
  rw [settle]
  split
  · next next hnext =>
    rw [h] at hnext
    cases hnext
  · rfl

/-- With what it has settled in, a session has nothing left to do. -/
theorem step?_settle (s : Session σ) : (s.settle devices).step? devices = none := by
  fun_induction Session.settle devices s with
  | case1 s next hstep ih => exact ih
  | case2 s hnone => exact hnone

theorem run_settle (s : Session σ) : Run devices s (s.settle devices) := by
  fun_induction settle devices s with
  | case1 s next hstep ih => exact .head (.step hstep) ih
  | case2 s _ => exact .refl

theorem run_advance (s : Session σ) (milliseconds : Nat) :
    Run devices s (s.advance devices milliseconds) :=
  .head (.wait s milliseconds) (.tail (run_settle devices _) (.notice _))

theorem run_join (s : Session σ) : Run devices s (s.join devices) := by
  refine (run_settle devices s).trans ?_
  unfold join
  generalize s.settle devices = settled
  extract_lets
  split
  · next deadline _ =>
    have hclock : max settled.clock deadline = settled.clock + (deadline - settled.clock) := by
      omega
    rw [hclock]
    exact .head (.wait settled _) (.head (.notice _) (run_settle devices _))
  · exact .refl

end Undisturbed

end Session

end DvbReceiver
