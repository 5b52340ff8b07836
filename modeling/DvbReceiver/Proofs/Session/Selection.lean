import DvbReceiver.Proofs.Simulation.Runs

/-!
# Only the selected programme is bound

Every stream that a session asks for and every channel that it shows comes from one PMT, with the
programme number of the service that is selected at that moment. The PMT was stored after the
filter for it had been programmed, and no channel request was followed in between
(`bindsSelected_of_reachable`). So a PMT from before, or one of a programme that has been
abandoned, is never bound.
-/

namespace DvbReceiver

open Journal

theorem Event.fits_of_binds {pmt : Pmt} {event : Event} (h : event.binds = false) :
    event.Fits pmt := by
  cases event <;> trivial

namespace Session

variable {σ : Type} (devices : Devices σ) {s t : Session σ} {entries : List Entry} {event : Event}

/-- The event comes behind the entries and binds streams of `pmt`, the PMT of the service that `s`
has selected. -/
structure BindsSelected (s : Session σ) (entries : List Entry) (event : Event)
    (service : Pat.Service) (pmt : Pmt) : Prop where
  selected : s.services[s.index]? = some service
  /-- The services are those of a PAT that was stored. -/
  adopted : s.FromPat
  decoded : ∃ bytes, Table.ofSection? bytes = some (.ok (.pmt pmt))
  number : pmt.programNumber = service.programNumber
  /-- Behind the last filter that was programmed, which is the one for the service, the PMT was
  stored, no channel request was followed, and nothing was bound that is not the PMT's. -/
  programmed : ∃ before handle after,
    entries = before ++
      .event (.setFilter service.pid TableKind.pmt.tableId (.ok handle)) :: after ∧
    (∀ entry ∈ after, entry.programs = false) ∧ .stored (.pmt pmt) ∈ after ∧
    (∀ request, .took (.channelChange request) ∈ after →
      Channel.next? s.index s.services.length request = none) ∧
    ∀ earlier, .event earlier ∈ after → earlier.Fits pmt
  fits : event.Fits pmt

/-- What the step that takes up an awaited PMT adds before an event that binds streams. -/
theorem bindsSelected_of_fresh? {pmt : Pmt} {since : Nat} (hs : s.Sound)
    (hprogress : s.progress = .waiting (.pmt pmt.programNumber) since)
    (hfresh : s.registry.fresh? .pmt s.mark = some (.pmt pmt))
    (hentries : ∀ entry ∈ entries, entry.Binding pmt) (hevent : event.Fits pmt) :
    ∃ service, s.BindsSelected (s.journal ++ .took (.tableArrived .pmt) :: entries) event
      service pmt := by
  obtain ⟨haccounted, hattends⟩ := hs.attends hprogress
  have hwatches := hattends.watches .pmt rfl
  obtain ⟨before, pid, handle, hjournal, -, -, hpid⟩ := hwatches.programmed
  have hstored := hwatches.stored_of_fresh? haccounted hfresh
  refine ⟨_, hpid _ rfl, hattends.services (by simp [Goal.Defers]), ?_, rfl,
    ⟨before, handle, sinceFilter s.journal ++ .took (.tableArrived .pmt) :: entries,
      ?_, ?_, ?_, ?_, ?_⟩, hevent⟩
  · exact haccounted.accounts.decoded _ (mem_tables.2 (mem_of_mem_sinceFilter hstored))
  · rw [← List.cons_append, ← List.append_assoc, ← hjournal]
  · rw [List.forall_mem_append, List.forall_mem_cons]
    exact ⟨fun _ => programs_of_mem_sinceFilter, rfl, fun entry hmem =>
      (hentries entry hmem).programs⟩
  · exact List.mem_append_left _ hstored
  · intro request hmem
    rw [List.mem_append, List.mem_cons] at hmem
    rcases hmem with hmem | hmem | hmem
    · exact hwatches.unfollowed request hmem (by simp [Goal.Defers])
    · cases hmem
    · cases (hentries _ hmem).taken
  · intro earlier hmem
    rw [List.mem_append, List.mem_cons] at hmem
    rcases hmem with hmem | hmem | hmem
    · exact Event.fits_of_binds (hwatches.unbound earlier hmem)
    · cases hmem
    · exact (hentries _ hmem).fits earlier rfl

/-- An event that binds streams is none of the routine entries. -/
theorem not_mem_of_routine (hentries : ∀ entry ∈ entries, entry.Routine)
    (hbinds : event.binds = true) : .event event ∉ entries := by
  intro hmem
  have hnot := (hentries _ hmem).binds event rfl
  rw [hbinds] at hnot
  cases hnot

/-- An event that binds streams is none of the quiet entries. -/
theorem not_mem_of_quiet (hentries : ∀ entry ∈ entries, entry.Quiet)
    (hbinds : event.binds = true) : .event event ∉ entries := by
  intro hmem
  have hnot := ((hentries _ hmem).calls event rfl).2
  rw [hbinds] at hnot
  cases hnot

/-- An event that binds streams was there before a step, or the step takes up the PMT of the
selected service and the event comes from that. -/
theorem bindsSelected_of_step? (hs : s.Sound) (hstep : s.step? devices = some t)
    {rest : List Entry} (hjournal : t.journal = entries ++ .event event :: rest)
    (hbinds : event.binds = true) :
    (∃ more, s.journal = entries ++ .event event :: more) ∨
      s.journal <+: entries ∧ ∃ service pmt, s.BindsSelected entries event service pmt := by
  cases stepped_of_step? devices hs hstep with
  | leads h =>
    obtain ⟨new, hnew, hroutine⟩ := h.adds
    exact Or.inl (split_of_not_mem (hnew.symm.trans hjournal) (not_mem_of_routine hroutine hbinds))
  | @took signal _ hqueue h =>
    obtain ⟨new, hnew, hroutine⟩ := h.adds
    have hsplit : s.journal ++ .took signal :: new = t.journal := by
      rw [hnew]
      simp [take, record]
    refine Or.inl (split_of_not_mem (hsplit.trans hjournal) ?_)
    simpa using not_mem_of_routine hroutine hbinds
  | @bound pmt _ _ hprogress hqueue hfresh h =>
    obtain ⟨bound, ⟨new, hnew, hbinding⟩, -, hleads⟩ := h
    obtain ⟨later, hlater, hroutine⟩ := hleads.adds
    have hsplit : (s.journal ++ .took (.tableArrived .pmt) :: new) ++ later = t.journal := by
      rw [hlater, hnew]
      simp [take, record]
    obtain ⟨more, hmore⟩ :=
      split_of_not_mem (hsplit.trans hjournal) (not_mem_of_routine hroutine hbinds)
    rcases split_cases hmore with ⟨more, hmore, -⟩ | ⟨passed, rfl, hpassed⟩
    · exact Or.inl ⟨more, hmore⟩
    -- the first entry of the step is the signal that it takes
    rcases passed with _ | ⟨entry, passed⟩
    · cases hpassed
    rw [List.cons_append, List.cons.injEq] at hpassed
    obtain ⟨rfl, rfl⟩ := hpassed
    rw [List.forall_mem_append, List.forall_mem_cons] at hbinding
    obtain ⟨hbefore, hevent, -⟩ := hbinding
    obtain ⟨service, hselected⟩ :=
      bindsSelected_of_fresh? hs hprogress hfresh hbefore (hevent.fits event rfl)
    exact Or.inr ⟨List.prefix_append _ _, service, pmt, hselected⟩

/-- **Only the selected programme is bound**, in the step that starts from `s`. -/
theorem bindsSelected_of_reachable {config : Config} (h : Reachable devices config t)
    {rest : List Entry} (hjournal : t.journal = entries ++ .event event :: rest)
    (hbinds : event.binds = true) :
    ∃ s u service pmt, Reachable devices config s ∧ s.step? devices = some u ∧
      s.journal <+: entries ∧ entries ++ [.event event] <+: u.journal ∧
      s.BindsSelected entries event service pmt := by
  obtain ⟨hardware, hrun⟩ := h
  induction hrun generalizing rest with
  | refl =>
    have hmem : Entry.event event ∈ (start config hardware).journal := by simp [hjournal]
    simp only [start, List.mem_cons, Entry.event.injEq, List.not_mem_nil, or_false] at hmem
    rcases hmem with rfl | rfl <;> cases hbinds
  | @tail s t hrun hmove ih =>
    have hreach : Reachable devices config s := ⟨hardware, hrun⟩
    rcases hmove.step_or_idles with hstep | hidles
    · have hs := sound_of_reachable devices hreach
      rcases bindsSelected_of_step? devices hs hstep hjournal hbinds with
        ⟨more, hmore⟩ | ⟨hearlier, service, pmt, hselected⟩
      · exact ih hmore
      · have hnew : entries ++ [.event event] <+: t.journal := ⟨rest, by simp [hjournal]⟩
        exact ⟨s, t, service, pmt, hreach, hstep, hearlier, hnew, hselected⟩
    · obtain ⟨new, hnew, hquiet⟩ := hidles.adds
      obtain ⟨more, hmore⟩ :=
        split_of_not_mem (hnew.symm.trans hjournal) (not_mem_of_quiet hquiet hbinds)
      exact ih hmore

open Simulation Sample in
/-- After a request for programme 2, a late PMT of programme 1 is passed over. -/
theorem bindsSelected_of_latePmt :
    ∃ t : Session Hardware, ∃ entries rest, Reachable Simulation.devices {} t ∧
      t.journal = entries ++ .event (.channelBound ⟨2, none, some 0x201⟩) :: rest ∧
      ∃ s u service pmt, Reachable Simulation.devices {} s ∧
        s.step? Simulation.devices = some u ∧ s.journal <+: entries ∧
        entries ++ [.event (.channelBound ⟨2, none, some 0x201⟩)] <+: u.journal ∧
        s.BindsSelected entries (.channelBound ⟨2, none, some 0x201⟩) service pmt := by
  let changed := (tuned.deliver (.request .up)).takeSteps Simulation.devices 1
  let played := ((changed.deliver (.arrived pmt₁)).deliver (.arrived pmt₂)).takeSteps
    Simulation.devices 2
  have hchanged : Run Simulation.devices tuned changed :=
    .head (.deliver _ _) (run_takeSteps _ _ 1)
  have hplayed : Run Simulation.devices changed played :=
    .head (.deliver _ _) (.head (.deliver _ _) (run_takeSteps _ _ 2))
  have hjournal : played.journal =
      played.journal.take 27 ++ .event (.channelBound ⟨2, none, some 0x201⟩) ::
        played.journal.drop 28 := by decide +kernel
  have hreach := reachable_of_run (hchanged.trans hplayed)
  exact ⟨played, _, _, hreach, hjournal,
    bindsSelected_of_reachable Simulation.devices hreach hjournal rfl⟩

end Session

end DvbReceiver
