import DvbReceiver.Proofs.Simulation.Runs

/-!
# Resources are in balance

Whatever the hardware answers and whatever is delivered when, a session never has more than one
filter, one video stream and one audio stream, gives back only what is lent out, and locks the
tuner and opens the source one time at most. When it is over, everything has been given back, as
often as it was lent, the last of it in order; nothing is called after that
(`balanced_of_reachable`).
-/

namespace DvbReceiver

open Journal

namespace Session

variable {σ : Type} (devices : Devices σ) {s : Session σ}

/-- The session is over and has given back all that was ever lent to it. -/
structure Returned (s : Session σ) (outcome : Outcome) : Prop where
  filters : ∀ handle, s.events.countP (· = .freeFilter handle) =
    s.events.countP (·.filterLent? = some handle)
  streams : ∀ handle, s.events.countP (· = .removeStream handle) =
    s.events.countP (·.streamLent? = some handle)
  /-- The source is closed one time if it was opened, and never if it was not. -/
  source : s.events.countP (· = .closeSource) = (s.events.any Event.opens).toNat
  tuner : s.events.countP (· = .release) = (s.events.any Event.engages).toNat
  /-- What was still lent out at the end is given back in order, and no call comes after it. -/
  order : ∃ before releases after,
    s.journal = before ++ .ended outcome :: releases ++ .entered .tornDown :: after ∧
    Journal.events releases = (Ledger.after (Journal.events before)).releases ∧
    ∀ event ∈ Journal.events after, event.isCall = false

/-- The resources of the session are in balance. -/
structure Balanced (s : Session σ) : Prop where
  /-- At every moment, at most one thing of each sort is lent out. -/
  atMostOne : ∀ events, events <+: s.events → (Ledger.after events).AtMostOne
  /-- What is given back is lent out at that moment. -/
  lent : ∀ events event, events ++ [event] <+: s.events → (Ledger.after events).Lent event
  lock : s.events.countP Event.isLock ≤ 1
  openSource : s.events.countP Event.isOpen ≤ 1
  returned : ∀ outcome, s.progress = .finished outcome → s.Returned outcome

/-- A session that is over has nothing left. -/
theorem Over.orderly {outcome : Outcome} (h : s.Over outcome) : Orderly s.events {} := by
  obtain ⟨before, releases, after, held, hjournal, horderly, hcalls, hafter⟩ := h.ended
  have hevents : s.events = Journal.events before ++ held.releases ++ Journal.events after := by
    rw [← hcalls.events_eq]
    simp [events, Journal.events, hjournal, List.filterMap_cons, Entry.event?]
  rw [hevents]
  exact horderly.releases.append (events_of_quiet hafter)

/-- The calls of a session are orderly, whether it is over or not. -/
theorem Sound.orderly (h : s.Sound) : ∃ held, Orderly s.events held := by
  cases h with
  | starting _ hs => exact ⟨_, hs.accounts.orderly⟩
  | waiting hs => exact ⟨_, hs.accounts.orderly⟩
  | finished hover => exact ⟨{}, hover.orderly⟩

/-- An event of a sort that comes one time at most is counted by its presence. -/
theorem countP_eq_any {p q : Event → Bool} {events : List Event} (hpq : ∀ event, p event → q event)
    (hq : events.countP q ≤ 1) : events.countP p = (events.any p).toNat := by
  have hle : events.countP p ≤ 1 := (List.countP_mono_left fun event _ => hpq event).trans hq
  rcases hany : events.any p with _ | _
  · refine List.countP_eq_zero.2 fun event hmem => ?_
    simpa using List.any_eq_false.1 hany event hmem
  · obtain ⟨event, hmem, hp⟩ := List.any_eq_true.1 hany
    have hpos : 0 < events.countP p := List.countP_pos_iff.2 ⟨event, hmem, hp⟩
    rw [Bool.toNat_true]
    omega

theorem Over.returned {outcome : Outcome} (h : s.Over outcome) : s.Returned outcome := by
  have horderly := h.orderly
  constructor
  · intro handle
    exact (horderly.count_filter handle).symm
  · intro handle
    exact (horderly.count_stream handle).symm
  · rw [← countP_eq_any (q := Event.isOpen) _ horderly.countP_isOpen_le]
    · exact horderly.count_source.symm
    · intro event hopens
      cases event <;> first | rfl | cases hopens
  · rw [← countP_eq_any (q := Event.isLock) _ horderly.countP_isLock_le]
    · exact horderly.count_tuner.symm
    · intro event hengages
      cases event <;> first | rfl | cases hengages
  · obtain ⟨before, releases, after, held, hjournal, hbefore, hcalls, hafter⟩ := h.ended
    refine ⟨before, releases, after, hjournal, ?_, events_of_quiet hafter⟩
    rw [hcalls.events_eq, hbefore.ledger_eq, Ledger.releases_ofHeld]

/-- **Resources are in balance**, in every session that can be reached. -/
theorem balanced_of_reachable {config : Config} (h : Reachable devices config s) : s.Balanced := by
  obtain ⟨held, horderly⟩ := (sound_of_reachable devices h).orderly
  constructor
  · intro events hp
    exact horderly.atMostOne hp
  · intro events event hp
    exact horderly.lent hp
  · exact horderly.countP_isLock_le
  · exact horderly.countP_isOpen_le
  · intro outcome hprogress
    exact (over_of_finished devices h hprogress).returned

open Simulation Sample in
/-- A session that plays programme 1 and is ended by the viewer. -/
theorem balanced_of_shutdown :
    ∃ s : Session Hardware, Reachable Simulation.devices {} s ∧ s.progress = .finished (.ok ()) ∧
      s.events.contains (.createStream 0x101 .mpeg2Video (.ok ⟨1⟩)) ∧ s.Balanced := by
  have hrun : Run Simulation.devices tuned
      (((tuned.deliver (.arrived pmt₁)).deliver .shutdown).takeSteps Simulation.devices 5) :=
    .head (.deliver _ _) (.head (.deliver _ _) (run_takeSteps _ _ 5))
  exact ⟨_, reachable_of_run hrun, by decide +kernel, by decide +kernel,
    balanced_of_reachable Simulation.devices (reachable_of_run hrun)⟩

end Session

end DvbReceiver
