import DvbReceiver.Proofs.Simulation.Runs

/-!
# When an awaited table is lost

The registry keeps the latest table of each kind, and a session looks at it when it takes an
arrival. So a session that waits although a table it waits for was stored has not overlooked it:
before the next arrival was taken, a table that is not waited for took its place
(`overwritten_of_blocked`).
-/

namespace DvbReceiver

open Journal

theorem Goal.kind?_of_accepts {goal : Goal} {table : Table} (h : goal.accepts table = true) :
    goal.kind? = some table.kind := by
  cases goal <;> cases table <;> first | rfl | cases h

/-- The last store of a kind, if there is one. -/
theorem Journal.exists_last_stored {kind : TableKind} {entries : List Entry}
    (h : ∃ table ∈ tables entries, table.kind = kind) :
    ∃ before table after, entries = before ++ .stored table :: after ∧ table.kind = kind ∧
      ∀ later ∈ tables after, later.kind ≠ kind := by
  induction entries using List.reverseRecOn with
  | nil => simp [tables] at h
  | append_singleton entries entry ih =>
    by_cases hentry : ∃ table, entry = .stored table ∧ table.kind = kind
    · obtain ⟨table, rfl, hkind⟩ := hentry
      exact ⟨entries, table, [], rfl, hkind, by simp [tables]⟩
    · have hnot : ∀ table ∈ tables [entry], table.kind ≠ kind := by
        intro table hmem hkind
        have hstored : entry = .stored table := (List.mem_singleton.1 (mem_tables.1 hmem)).symm
        exact hentry ⟨table, hstored, hkind⟩
      obtain ⟨table, hmem, hkind⟩ := h
      rw [tables_append, List.mem_append] at hmem
      have hmem := hmem.resolve_right fun hmem => hnot table hmem hkind
      obtain ⟨before, last, after, rfl, hlast, hafter⟩ := ih ⟨table, hmem, hkind⟩
      refine ⟨before, last, after ++ [entry], by simp, hlast, fun later hmem => ?_⟩
      rw [tables_append, List.mem_append] at hmem
      exact hmem.elim (hafter later) (hnot later)

namespace Session

variable {σ : Type} (devices : Devices σ) {s : Session σ}

/-- **A table that is waited for is lost only by being overwritten.** If a session waits with an
empty queue, and since the filter was programmed a table was stored that it waits for, then
another table of that kind, which it does not wait for, was what the registry showed when the next
arrival was taken. -/
theorem overwritten_of_blocked {config : Config} (h : Reachable devices config s) {goal : Goal}
    {since : Nat} (hprogress : s.progress = .waiting goal since) (hqueue : s.queue = [])
    {before after : List Entry} {table : Table}
    (hstored : sinceFilter s.journal = before ++ .stored table :: after)
    (haccepts : goal.accepts table = true) :
    ∃ between other late rest,
      after = between ++ .stored other :: late ++ .took (.tableArrived table.kind) :: rest ∧
      other.kind = table.kind ∧ goal.accepts other = false ∧
      (∀ later ∈ tables late, later.kind ≠ table.kind) ∧
      .took (.tableArrived table.kind) ∉ between ++ late := by
  obtain ⟨haccounted, hattends⟩ := (sound_of_reachable devices h).attends hprogress
  have hwatches := hattends.watches _ (Goal.kind?_of_accepts haccepts)
  -- the arrival that announced the table has been taken, or one before it
  have htaken : .took (.tableArrived table.kind) ∈ after := by
    obtain ⟨start, pid, handle, hjournal, -⟩ := hwatches.programmed
    rw [hstored, ← List.cons_append, ← List.append_assoc] at hjournal
    refine (haccounted.accounts.announced _ table after hjournal).resolve_right ?_
    rw [hqueue]
    exact List.not_mem_nil
  obtain ⟨first, rest, rfl, hfirst⟩ := List.eq_append_cons_of_mem htaken
  have hshown := hwatches.unaccepted (before ++ .stored table :: first) rest (by simp [hstored])
  by_cases hother : ∃ other ∈ tables first, other.kind = table.kind
  · obtain ⟨between, other, late, rfl, hkind, hlate⟩ := exists_last_stored hother
    refine ⟨between, other, late, rest, rfl, hkind, ?_, hlate, ?_⟩
    · rw [← List.cons_append, ← List.append_assoc, last?_append_stored hkind hlate] at hshown
      exact hshown
    · intro hmem
      refine hfirst (List.mem_append.2 ((List.mem_append.1 hmem).imp_right ?_))
      exact List.mem_cons_of_mem _
  -- nothing hid the table, so it was shown and taken up
  · rw [last?_append_stored rfl fun other hmem hkind => hother ⟨other, hmem, hkind⟩,
      Option.any_some, haccepts] at hshown
    cases hshown

open Simulation Sample in
/-- A PMT that is waited for is overwritten by another programme's. -/
theorem overwritten_of_otherPmt :
    ∃ s : Session Hardware, ∃ before after, Reachable Simulation.devices {} s ∧
      s.progress = .waiting (.pmt 1) 0 ∧ s.queue = [] ∧
      sinceFilter s.journal = before ++ .stored (.pmt programme₁) :: after ∧
      ∃ between other late rest,
        after = between ++ .stored other :: late ++ .took (.tableArrived .pmt) :: rest ∧
        other.kind = .pmt ∧ (Goal.pmt 1).accepts other = false ∧
        (∀ later ∈ tables late, later.kind ≠ .pmt) ∧
        .took (.tableArrived .pmt) ∉ between ++ late := by
  let lost := ((tuned.deliver (.arrived pmt₁)).deliver (.arrived pmt₂)).takeSteps
    Simulation.devices 2
  have hreach : Reachable Simulation.devices {} lost :=
    reachable_of_run (.head (.deliver _ _) (.head (.deliver _ _) (run_takeSteps _ _ 2)))
  have hprogress : lost.progress = .waiting (.pmt 1) 0 := by decide +kernel
  have hqueue : lost.queue = [] := by decide +kernel
  have hstored : sinceFilter lost.journal =
      [] ++ .stored (.pmt programme₁) :: (sinceFilter lost.journal).tail := by decide +kernel
  exact ⟨lost, _, _, hreach, hprogress, hqueue, hstored,
    overwritten_of_blocked Simulation.devices hreach hprogress hqueue hstored (by decide +kernel)⟩

open Simulation Sample in
/-- So it is not true that a session never waits for a PMT that was stored. -/
theorem not_never_lost :
    ¬∀ (s : Session Hardware) (pmt : Pmt) (since : Nat), Reachable Simulation.devices {} s →
      s.progress = .waiting (.pmt pmt.programNumber) since → s.queue = [] →
      .stored (.pmt pmt) ∉ sinceFilter s.journal := by
  intro hnever
  let lost := ((tuned.deliver (.arrived pmt₁)).deliver (.arrived pmt₂)).takeSteps
    Simulation.devices 2
  have hreach : Reachable Simulation.devices {} lost :=
    reachable_of_run (.head (.deliver _ _) (.head (.deliver _ _) (run_takeSteps _ _ 2)))
  exact hnever lost programme₁ 0 hreach (by decide +kernel) (by decide +kernel) (by decide +kernel)

end Session

end DvbReceiver
