import DvbReceiver.Proofs.Simulation.Runs

/-!
# When a request supersedes the wait for a PMT

A channel request that is in the queue when the awaited PMT is delivered should be followed before
the PMT is taken up. It is not always: the arrival of an older PMT that stands before the request
makes the session look at the registry, which already shows the newer PMT, and its streams are
bound. This is the only way in which it goes wrong (`supersedes_iff`).
-/

namespace DvbReceiver

open Journal

/-- The signal ends the wait for a PMT when the service at `index` of `count` is selected. -/
def Signal.interrupts (index count : Nat) : Signal → Bool
  | shutdown => true
  | channelChange request => (Channel.next? index count request).isSome
  | _ => false

namespace Session

variable {σ : Type} (devices : Devices σ) {s t u : Session σ} {signal : Signal}
  {ahead behind rest : List Signal} {programNumber since : Nat}

/-- The session after a signal that ends the wait for a PMT: it is over, or looks for the PMT of
the service that is asked for. -/
def interrupt (s : Session σ) : Signal → Session σ
  | .shutdown => s.finish devices (.ok ())
  | .channelChange request =>
    match Channel.next? s.index s.services.length request with
    | some index => { s with index }.findPmt devices
    | none => s
  | _ => s

/-- `t` has come from `s` without an end of the wait, and no streams have been bound. -/
structure StillWaits (s t : Session σ) : Prop where
  progress : t.progress = s.progress
  index : t.index = s.index
  services : t.services = s.services
  unbound : ∃ new, t.journal = s.journal ++ new ∧
    ∀ event, .event event ∈ new → event.binds = false

/-- Whatever happens, the session waits and binds no streams until it takes the signal, and is then
interrupted by it. -/
def Supersedes (s : Session σ) (signal : Signal) : Prop :=
  ∀ t, Run devices s t → s.StillWaits t ∨
    ∃ u rest, Run devices s u ∧ s.StillWaits u ∧ u.queue = signal :: rest ∧
      Run devices ((u.take signal rest).interrupt devices signal) t

theorem met?_pmt (programNumber : Nat) (registry : Registry) (mark : Nat)
    (hsignal : signal ≠ .tableArrived .pmt) :
    (Goal.pmt programNumber).met? registry mark signal = none := by
  unfold Goal.met?
  split <;> simp_all

/-- Every signal but the arrival of a PMT is passed over or interrupts the wait. -/
theorem react_pmt (hsignal : signal ≠ .tableArrived .pmt) :
    s.react devices (.pmt programNumber) signal = s.interrupt devices signal := by
  unfold react
  rw [met?_pmt programNumber s.registry s.mark hsignal]
  cases signal with
  | channelChange request => exact if_neg (by simp [Goal.Defers])
  | _ => rfl

theorem interrupt_of_not_interrupts
    (h : signal.interrupts s.index s.services.length = false) : s.interrupt devices signal = s := by
  cases signal with
  | shutdown => cases h
  | channelChange request =>
    rw [Signal.interrupts, Option.isSome_eq_false_iff, Option.isNone_iff_eq_none] at h
    rw [interrupt, h]
  | tunerStatus status => rfl
  | tableArrived kind => rfl

theorem step?_pmt (hprogress : s.progress = .waiting (.pmt programNumber) since)
    (hqueue : s.queue = signal :: rest) (hsignal : signal ≠ .tableArrived .pmt) :
    s.step? devices = some ((s.take signal rest).interrupt devices signal) := by
  rw [step?_of_cons devices hprogress hqueue, react_pmt devices hsignal]

theorem StillWaits.refl (s : Session σ) : s.StillWaits s :=
  ⟨rfl, rfl, rfl, [], (List.append_nil _).symm, by simp⟩

theorem StillWaits.take (h : s.StillWaits t) : s.StillWaits (t.take signal rest) := by
  obtain ⟨new, hjournal, hunbound⟩ := h.unbound
  refine ⟨h.progress, h.index, h.services, new ++ [.took signal], ?_, ?_⟩
  · rw [← List.append_assoc, ← hjournal]
    rfl
  · intro event hmem
    exact hunbound event (by simpa using hmem)

theorem StillWaits.idles (h : s.StillWaits t) (hidles : t.Idles u) : s.StillWaits u := by
  obtain ⟨new, hjournal, hunbound⟩ := h.unbound
  obtain ⟨more, hmore, hquiet⟩ := hidles.adds
  refine ⟨hidles.progress.trans h.progress, hidles.aim.index.trans h.index,
    hidles.aim.services.trans h.services, new ++ more, ?_, ?_⟩
  · rw [hmore, hjournal, List.append_assoc]
  · intro event hmem
    rcases List.mem_append.1 hmem with hmem | hmem
    · exact hunbound event hmem
    · exact ((hquiet _ hmem).calls event rfl).2

/-- Without the arrival of a PMT before it, a signal that ends the wait comes first. -/
theorem supersedes_of_not_mem (hprogress : s.progress = .waiting (.pmt programNumber) since)
    (hqueue : s.queue = ahead ++ signal :: behind)
    (hahead : ∀ passed ∈ ahead, passed.interrupts s.index s.services.length = false)
    (hsignal : signal.interrupts s.index s.services.length = true)
    (harrival : .tableArrived .pmt ∉ ahead) : Supersedes devices s signal := by
  -- while the session waits, what is left of the queue is a part of it
  suffices h : ∀ t, Run devices s t →
      (s.StillWaits t ∧ ∃ left more, t.queue = left ++ signal :: more ∧ left ⊆ ahead) ∨
        ∃ u rest, Run devices s u ∧ s.StillWaits u ∧ u.queue = signal :: rest ∧
          Run devices ((u.take signal rest).interrupt devices signal) t from
    fun t hrun => (h t hrun).imp_left And.left
  intro t hrun
  induction hrun with
  | refl => exact Or.inl ⟨.refl s, ahead, behind, hqueue, List.Subset.refl _⟩
  | @tail t u hrun hmove ih =>
    rcases ih with ⟨hwaits, left, more, hleft, hsub⟩ | ⟨v, rest, hv, hwaits, hrest, hrun'⟩
    · rcases hmove.step_or_idles with hstep | hidles
      · have hgoal := hwaits.progress.trans hprogress
        rcases left with _ | ⟨passed, left⟩
        · have hnot : signal ≠ .tableArrived .pmt := by
            rintro rfl
            cases hsignal
          rw [step?_pmt devices hgoal hleft hnot, Option.some.injEq] at hstep
          exact Or.inr ⟨t, more, hrun, hwaits, hleft, hstep ▸ .refl⟩
        · have hpassed : passed ∈ ahead := hsub List.mem_cons_self
          have hnot : passed ≠ .tableArrived .pmt := fun heq => harrival (heq ▸ hpassed)
          rw [step?_pmt devices hgoal hleft hnot, interrupt_of_not_interrupts, Option.some.injEq]
            at hstep
          · subst hstep
            exact Or.inl ⟨hwaits.take, left, more, rfl,
              fun _ hmem => hsub (List.mem_cons_of_mem _ hmem)⟩
          · exact hwaits.index ▸ hwaits.services ▸ hahead passed hpassed
      · obtain ⟨added, hadded⟩ := hidles.queue
        exact Or.inl ⟨hwaits.idles hidles, left, more ++ added, by simp [← hadded, hleft], hsub⟩
    · exact Or.inr ⟨v, rest, hv, hwaits, hrest, hrun'.tail hmove⟩

/-- The arrival of a PMT binds streams of the PMT that the registry shows. -/
theorem step?_bindsTo (hs : s.Sound) {pmt : Pmt}
    (hprogress : s.progress = .waiting (.pmt pmt.programNumber) since)
    (hfresh : s.registry.fresh? .pmt s.mark = some (.pmt pmt))
    (hqueue : s.queue = .tableArrived .pmt :: rest) :
    ∃ t, s.step? devices = some t ∧ BindsTo devices (s.take (.tableArrived .pmt) rest) pmt t := by
  obtain ⟨haccounted, hattends⟩ := hs.attends hprogress
  have hmet : (Goal.pmt pmt.programNumber).met? s.registry s.mark (.tableArrived .pmt) =
      some (.pmt pmt) := by
    simp [Goal.met?, Registry.after?_pmt_eq_some_iff.2 hfresh]
  refine ⟨_, step?_of_cons devices hprogress hqueue, ?_⟩
  unfold react
  rw [show (Goal.pmt pmt.programNumber).met? (s.take (.tableArrived .pmt) rest).registry
    (s.take (.tableArrived .pmt) rest).mark (.tableArrived .pmt) = some (.pmt pmt) from hmet]
  exact bindsTo_bindStreams devices (haccounted.take hqueue)
    (hattends.services (by simp [Goal.Defers])).take

/-- The arrival of a PMT before any other signal that counts: the session takes what stands before
it and binds the streams. -/
theorem exists_run_binds (hs : s.Sound) {pmt : Pmt}
    (hprogress : s.progress = .waiting (.pmt pmt.programNumber) since)
    (hfresh : s.registry.fresh? .pmt s.mark = some (.pmt pmt))
    (hqueue : s.queue = ahead ++ .tableArrived .pmt :: rest)
    (hahead : ∀ passed ∈ ahead, passed.interrupts s.index s.services.length = false)
    (hnot : .tableArrived .pmt ∉ ahead) :
    ∃ t new event, Run devices s t ∧ t.journal = s.journal ++ new ∧ .event event ∈ new ∧
      event.binds = true ∧
      ∀ signal, .took signal ∈ new → signal ∈ ahead ∨ signal = .tableArrived .pmt := by
  induction ahead generalizing s with
  | nil =>
    obtain ⟨t, hstep, bound, ⟨added, hadded, hbinding⟩, ⟨before, event, after, hevent, hbinds⟩,
      hleads⟩ := step?_bindsTo devices hs hprogress hfresh hqueue
    obtain ⟨later, hlater, hroutine⟩ := hleads.adds
    refine ⟨t, .took (.tableArrived .pmt) :: added ++ later, event, .single (.step hstep), ?_, ?_,
      hbinds, ?_⟩
    · rw [hlater, hadded]
      simp [take, record]
    · have hmem : .event event ∈ added := by
        rw [hadded, List.append_assoc, List.append_cancel_left_eq] at hevent
        simp [hevent]
      simp [hmem]
    · intro signal hmem
      simp only [List.cons_append, List.mem_cons, List.mem_append, Entry.took.injEq] at hmem
      rcases hmem with rfl | hmem | hmem
      · exact Or.inr rfl
      · cases (hbinding _ hmem).taken
      · cases (hroutine _ hmem).taken
  | cons passed ahead ih =>
    rw [List.forall_mem_cons] at hahead
    rw [List.mem_cons, not_or] at hnot
    have hstep := step?_pmt devices hprogress hqueue (Ne.symm hnot.1)
    rw [interrupt_of_not_interrupts] at hstep
    · have hs' := (stepped_of_step? devices hs hstep).sound
      obtain ⟨t, new, event, hrun, hjournal, hmem, hbinds, htook⟩ :=
        ih hs' hprogress hfresh rfl hahead.2 hnot.2
      refine ⟨t, .took passed :: new, event, .head (.step hstep) hrun, ?_,
        List.mem_cons_of_mem _ hmem, hbinds, ?_⟩
      · rw [hjournal]
        simp [take, record]
      · intro signal hmem
        rw [List.mem_cons, Entry.took.injEq] at hmem
        rcases hmem with rfl | hmem
        · exact Or.inl List.mem_cons_self
        · exact (htook signal hmem).imp_left (List.mem_cons_of_mem _)
    · exact hahead.1

theorem adds_interrupt (hs : s.Sound) (hprogress : s.progress = .waiting (.pmt programNumber) since)
    (hqueue : s.queue = signal :: rest) (hsignal : signal ≠ .tableArrived .pmt) :
    (s.take signal rest).Adds Entry.Routine ((s.take signal rest).interrupt devices signal) := by
  obtain ⟨haccounted, hattends⟩ := hs.attends hprogress
  have hmet := met?_pmt programNumber s.registry s.mark hsignal
  rw [← react_pmt devices hsignal]
  exact (leads_of_met?_eq_none devices haccounted hprogress hqueue hattends hmet).adds

/-- The arrival of a PMT before it, and a signal that ends the wait comes too late. -/
theorem not_supersedes_of_mem (hs : s.Sound) {pmt : Pmt}
    (hprogress : s.progress = .waiting (.pmt pmt.programNumber) since)
    (hfresh : s.registry.fresh? .pmt s.mark = some (.pmt pmt))
    (hqueue : s.queue = ahead ++ signal :: behind)
    (hahead : ∀ passed ∈ ahead, passed.interrupts s.index s.services.length = false)
    (hsignal : signal.interrupts s.index s.services.length = true)
    (harrival : .tableArrived .pmt ∈ ahead) : ¬Supersedes devices s signal := by
  intro hsupersedes
  obtain ⟨first, second, rfl, hnot⟩ := List.eq_append_cons_of_mem harrival
  rw [List.forall_mem_append, List.forall_mem_cons] at hahead
  rw [List.append_assoc, List.cons_append] at hqueue
  obtain ⟨t, new, event, hrun, hjournal, hmem, hbinds, htook⟩ :=
    exists_run_binds devices hs hprogress hfresh hqueue hahead.1 hnot
  rcases hsupersedes t hrun with hwaits | ⟨u, rest, hu, hwaits, hrest, hrun'⟩
  · obtain ⟨new', hnew', hunbound⟩ := hwaits.unbound
    rw [hjournal, List.append_cancel_left_eq] at hnew'
    have := hunbound event (hnew' ▸ hmem)
    rw [hbinds] at this
    cases this
  · obtain ⟨new', hnew', -⟩ := hwaits.unbound
    have hnot' : signal ≠ .tableArrived .pmt := by
      rintro rfl
      cases hsignal
    have hgoal := hwaits.progress.trans hprogress
    have hsu := sound_of_run devices hs hu
    have hleft := (stepped_of_step? devices hsu (step?_pmt devices hgoal hrest hnot')).sound
    obtain ⟨more, hmore, -⟩ := adds_interrupt devices hsu hgoal hrest hnot'
    obtain ⟨last, hlast, -⟩ := adds_of_run devices hleft hrun'
    -- the signal has been taken, which it had not
    have hnew : new = new' ++ .took signal :: (more ++ last) := by
      rw [hlast, hmore] at hjournal
      simp only [take, record, hnew', List.append_assoc, List.append_cancel_left_eq] at hjournal
      simpa using hjournal.symm
    rcases htook signal (by simp [hnew]) with hmem | heq
    · rw [hahead.1 signal hmem] at hsignal
      cases hsignal
    · exact hnot' heq

/-- **A request that is in the queue when the awaited PMT is delivered** is followed before the PMT
is taken up if, and only if, no arrival of an older PMT stands before it. The same goes for a
shutdown. -/
theorem supersedes_iff {config : Config} (h : Reachable devices config s) {pmt : Pmt}
    {before after : List Entry}
    (hprogress : s.progress = .waiting (.pmt pmt.programNumber) since)
    (hstored : s.journal = before ++ .stored (.pmt pmt) :: after)
    (hsince : .stored (.pmt pmt) :: after <:+ sinceFilter s.journal)
    (hlast : ∀ table ∈ tables after, table.kind ≠ .pmt) (htaken : taken after = [])
    (hqueued : queued before = taken before ++ (ahead ++ signal :: behind))
    (hahead : ∀ passed ∈ ahead, passed.interrupts s.index s.services.length = false)
    (hsignal : signal.interrupts s.index s.services.length = true) :
    Supersedes devices s signal ↔ .tableArrived .pmt ∉ ahead := by
  have hs := sound_of_reachable devices h
  obtain ⟨haccounted, hattends⟩ := hs.attends hprogress
  have hfresh : s.registry.fresh? .pmt s.mark = some (.pmt pmt) := by
    obtain ⟨older, holder⟩ := hsince
    rw [(hattends.watches .pmt rfl).fresh?_eq haccounted, ← holder]
    exact last?_append_stored rfl hlast
  -- the queue is still what it was at the delivery, and what came after
  have hqueue : s.queue = ahead ++ signal :: (behind ++ queued after) := by
    have hall := haccounted.accounts.queued
    rw [hstored, List.append_cons, queued_append, queued_append, taken_append, taken_append,
      hqueued, htaken] at hall
    simpa [Entry.queued?, Entry.taken?] using hall.symm
  constructor
  · intro hsupersedes harrival
    exact not_supersedes_of_mem devices hs hprogress hfresh hqueue hahead hsignal harrival
      hsupersedes
  · exact supersedes_of_not_mem devices hprogress hqueue hahead hsignal

open Simulation Sample in
/-- A request that only a lock status stands before is followed first. -/
theorem supersedes_of_status :
    ∃ s : Session Hardware, Reachable Simulation.devices {} s ∧
      s.queue = [.tunerStatus .notLocked, .channelChange .up, .tableArrived .pmt] ∧
      s.registry.fresh? .pmt s.mark = some (.pmt programme₁) ∧
      Supersedes Simulation.devices s (.channelChange .up) := by
  let asked := (tuned.deliver (.status .notLocked)).deliver (.request .up)
  let delivered := asked.deliver (.arrived pmt₁)
  have hreach : Reachable Simulation.devices {} delivered :=
    reachable_of_run (.head (.deliver _ _) (.head (.deliver _ _) (.single (.deliver _ _))))
  have hstored : delivered.journal =
      asked.journal ++ .stored (.pmt programme₁) :: [.queued (.tableArrived .pmt)] := by
    decide +kernel
  have hsince : .stored (.pmt programme₁) :: [.queued (.tableArrived .pmt)] <:+
      sinceFilter delivered.journal := by decide +kernel
  have hqueued : queued asked.journal =
      taken asked.journal ++ ([.tunerStatus .notLocked] ++ .channelChange .up :: []) := by
    decide +kernel
  have hprogress : delivered.progress = .waiting (.pmt programme₁.programNumber) 0 := by
    decide +kernel
  exact ⟨delivered, hreach, by decide +kernel, by decide +kernel,
    (supersedes_iff Simulation.devices hreach hprogress hstored hsince (by decide) rfl hqueued
      (by decide +kernel) (by decide +kernel)).2 (by decide)⟩

/-- When streams are bound on a PMT although a signal from before it is still in the queue, the
arrival of an older PMT stood before that signal. -/
theorem tableArrived_mem_of_bound (hs : s.Accounted) {table : Table} {before after : List Entry}
    (hqueue : s.queue = .tableArrived .pmt :: rest)
    (hstored : s.journal = before ++ .stored table :: after)
    (hqueued : queued before = taken before ++ (ahead ++ signal :: behind))
    (hleft : (taken after).length ≤ ahead.length) (hsignal : signal ≠ .tableArrived .pmt) :
    .tableArrived .pmt ∈ ahead := by
  have hall := hs.accounts.queued
  rw [hstored, List.append_cons, queued_append, queued_append, taken_append, taken_append, hqueued,
    hqueue] at hall
  have hline : ahead ++ signal :: (behind ++ queued after) =
      taken after ++ .tableArrived .pmt :: rest := by
    simpa [Entry.queued?, Entry.taken?] using hall
  rcases split_cases hline with ⟨more, rfl, -⟩ | ⟨more, hmore, hhead⟩
  · simp
  · rw [hmore, List.length_append] at hleft
    obtain rfl : more = [] := List.length_eq_zero_iff.1 (by omega)
    exact absurd (List.cons.inj hhead).1 hsignal

open Simulation Sample in
/-- Not every request is followed before a PMT that is delivered later: here the arrival of the
other programme's PMT stands before it. -/
theorem not_always_supersedes :
    ¬∀ (s : Session Hardware) (bytes : Bytes) (pmt : Pmt) (since : Nat) (request : ChannelRequest),
      Reachable Simulation.devices {} s → s.progress = .waiting (.pmt pmt.programNumber) since →
      Table.ofSection? bytes = some (.ok (.pmt pmt)) → .channelChange request ∈ s.queue →
      (Channel.next? s.index s.services.length request).isSome →
      Supersedes Simulation.devices (s.deliver (.arrived bytes)) (.channelChange request) := by
  intro hall
  let asked := (tuned.deliver (.arrived pmt₂)).deliver (.request .up)
  have hasked : Run Simulation.devices tuned asked := .head (.deliver _ _) (.single (.deliver _ _))
  have hdelivered : Run Simulation.devices tuned (asked.deliver (.arrived pmt₁)) :=
    hasked.tail (.deliver _ _)
  have hsound := sound_of_reachable Simulation.devices (reachable_of_run hdelivered)
  have hprogress : (asked.deliver (.arrived pmt₁)).progress =
      .waiting (.pmt programme₁.programNumber) 0 := by decide +kernel
  have hfresh : (asked.deliver (.arrived pmt₁)).registry.fresh? .pmt
      (asked.deliver (.arrived pmt₁)).mark = some (.pmt programme₁) := by decide +kernel
  have hqueue : (asked.deliver (.arrived pmt₁)).queue =
      [.tableArrived .pmt] ++ .channelChange .up :: [.tableArrived .pmt] := by decide +kernel
  refine not_supersedes_of_mem Simulation.devices hsound hprogress hfresh hqueue ?_ ?_ ?_
    (hall asked pmt₁ programme₁ 0 .up (reachable_of_run hasked) ?_ ofSection?_pmt₁ ?_ ?_)
  all_goals decide +kernel

end Session

end DvbReceiver
