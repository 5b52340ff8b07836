import DvbReceiver.Proofs.Session.Binding

/-!
# Taking a signal

A session that takes a signal from its queue (`Session.take`) goes on in one of three ways. What
meets the goal leads on, and only a PMT binds streams meanwhile (`leads_or_binds_of_met?`). Any
other signal leads on without that, be it that the session waits as before
(`leads_of_met?_eq_none`).
-/

namespace DvbReceiver

open Journal

namespace Session

variable {σ : Type} (devices : Devices σ) {s t : Session σ} {pmt : Pmt}

/-- The session after a signal has been taken. -/
def take (s : Session σ) (signal : Signal) (rest : List Signal) : Session σ :=
  { s with queue := rest }.record (.took signal)

theorem Accounted.take {signal : Signal} {rest : List Signal} (h : s.Accounted)
    (hqueue : s.queue = signal :: rest) : (s.take signal rest).Accounted where
  live := h.live
  accounts := by
    have haccounts := h.accounts
    rw [hqueue] at haccounts
    refine haccounts.concat rfl rfl ?_
    rw [show (Entry.took signal).event?.toList = [] from rfl, List.append_nil]
    exact h.accounts.orderly

theorem FromPat.take {signal : Signal} {rest : List Signal} (h : s.FromPat) :
    (s.take signal rest).FromPat :=
  h.of_adds (Q := fun _ => True) ⟨[.took signal], rfl, fun _ _ => trivial⟩ rfl

/-- A signal that meets the goal is gone on with. -/
theorem react_of_met? {goal : Goal} {signal : Signal} {rest : List Signal} {arrival : Arrival}
    (hmet : goal.met? s.registry s.mark signal = some arrival) :
    (s.take signal rest).react devices goal signal =
      (s.take signal rest).proceed devices arrival := by
  unfold react
  rw [show goal.met? (s.take signal rest).registry (s.take signal rest).mark signal = some arrival
    from hmet]

/-- A signal that meets the goal leads on. Only a PMT binds streams. -/
theorem leads_or_binds_of_met? {goal : Goal} {signal : Signal} {rest : List Signal}
    {arrival : Arrival} (h : s.Accounted) (hqueue : s.queue = signal :: rest)
    (hattends : s.Attends goal) (hmet : goal.met? s.registry s.mark signal = some arrival) :
    Leads devices (s.take signal rest) Waits ((s.take signal rest).proceed devices arrival) ∨
      ∃ pmt, goal = .pmt pmt.programNumber ∧ signal = .tableArrived .pmt ∧
        s.registry.fresh? .pmt s.mark = some (.pmt pmt) ∧
        BindsTo devices (s.take signal rest) pmt
          ((s.take signal rest).proceed devices arrival) := by
  have htaken := h.take hqueue
  have hpat : ¬goal.Defers → (s.take signal rest).FromPat := fun hgoal =>
    (hattends.services hgoal).take
  unfold Goal.met? at hmet
  split at hmet
  · cases hmet
    obtain ⟨hclosed, hopen⟩ := hattends.unopened rfl
    refine Or.inl (leads_findPat devices htaken hclosed fun event hmem => hopen event ?_)
    simpa [events, Session.take, record, Entry.event?] using hmem
  · obtain ⟨pat, hfresh, rfl⟩ := Option.map_eq_some_iff.1 hmet
    have hfresh' : s.registry.fresh? .pat s.mark = some (.pat pat) := by
      rw [← Registry.after?_pat, hfresh]
      rfl
    have hmem := (hattends.watches .pat rfl).stored_of_fresh? h hfresh'
    exact Or.inl (leads_adoptPat devices htaken
      (List.mem_append_left _ (mem_of_mem_sinceFilter hmem)))
  · next programNumber =>
    obtain ⟨pmt, hfresh, rfl⟩ := Option.map_eq_some_iff.1 hmet
    obtain ⟨hfound, hnumber⟩ := Option.filter_eq_some_iff.1 hfresh
    obtain rfl : pmt.programNumber = programNumber := by simpa using hnumber
    refine Or.inr ⟨pmt, rfl, rfl, Registry.after?_pmt_eq_some_iff.1 hfound, ?_⟩
    exact bindsTo_bindStreams devices htaken (hpat (by simp [Goal.Defers]))
  · obtain ⟨utc, -, rfl⟩ := Option.map_eq_some_iff.1 hmet
    exact Or.inl (leads_findTot devices htaken (hpat (by decide)) utc)
  · obtain ⟨tot, -, rfl⟩ := Option.map_eq_some_iff.1 hmet
    exact Or.inl (leads_resolveTime devices htaken (hpat (by simp [Goal.Defers])) _ _ tot)
  · cases hmet

/-- A signal that does not meet the goal is passed over or put off, ends the session, or leads to
another service. -/
theorem leads_of_met?_eq_none {goal : Goal} {since : Nat} {signal : Signal} {rest : List Signal}
    (h : s.Accounted) (hprogress : s.progress = .waiting goal since)
    (hqueue : s.queue = signal :: rest) (hattends : s.Attends goal)
    (hmet : goal.met? s.registry s.mark signal = none) :
    Leads devices (s.take signal rest) Waits ((s.take signal rest).react devices goal signal) := by
  have htaken := h.take hqueue
  -- in case the session goes on to wait, with the same aim
  have hon : ∀ t : Session σ, t.Accounted → t.progress = s.progress → s.SameAim t →
      t.journal = (s.take signal rest).journal →
      (∀ request, signal = .channelChange request → ¬goal.Defers →
        Channel.next? s.index s.services.length request = none) →
      Leads devices (s.take signal rest) Waits t := by
    intro t ht hprogress' haim hjournal hrequest
    exact .goes (Adds.of_eq hjournal) ht ⟨goal, since, hprogress'.trans hprogress,
      hattends.took h haim hjournal hmet hrequest⟩
  unfold react
  rw [show goal.met? (s.take signal rest).registry (s.take signal rest).mark signal = none
    from hmet]
  cases signal with
  | tunerStatus status => exact hon _ htaken rfl ⟨rfl, rfl, rfl, rfl⟩ rfl (by rintro _ ⟨⟩)
  | tableArrived kind => exact hon _ htaken rfl ⟨rfl, rfl, rfl, rfl⟩ rfl (by rintro _ ⟨⟩)
  | shutdown => exact .ends (Adds.of_eq rfl) htaken _
  | channelChange request =>
    simp only [changeChannel]
    split
    · next hgoal =>
      exact hon _ ⟨htaken.live, htaken.accounts⟩ rfl ⟨rfl, rfl, rfl, rfl⟩ rfl
        fun _ _ hnot => absurd hgoal hnot
    · next hgoal =>
      split
      · next index hnext =>
        refine Leads.of_adds devices ?_ (leads_findPmt devices ?_ ?_)
        · exact Adds.of_eq rfl
        · exact ⟨htaken.live, htaken.accounts⟩
        · exact (hattends.services hgoal).take
      · next hnext =>
        refine hon _ htaken rfl ⟨rfl, rfl, rfl, rfl⟩ rfl fun request' heq _ => ?_
        rw [Signal.channelChange.injEq] at heq
        rw [← heq]
        exact hnext

end Session

end DvbReceiver
