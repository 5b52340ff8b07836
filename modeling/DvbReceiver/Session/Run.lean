import DvbReceiver.Session.Step

/-!
# Running a session until it has to wait

`Session.settle` takes steps as long as there is one. This ends although any number of sections
may be delivered during a call, if no channel is asked for then: each step either takes a channel
request, or brings the session closer to the point where it waits for nothing but requests, or
takes a signal and does nothing else. `Session.work` counts these three in that order, and
`Session.lessWork_of_step?` says that every step makes it smaller.
-/

namespace DvbReceiver

/-- How far the wait for a goal is from the wait for requests. -/
def Goal.rank : Goal → Nat
  | locked => 6
  | pat => 5
  | pmt _ => 4
  | tdt => 3
  | tot _ _ => 2
  | request => 1

/-- How far a session is from its end. -/
def Progress.rank : Progress → Nat
  | starting => 7
  | waiting goal _ => goal.rank
  | finished _ => 0

theorem Goal.rank_pos (goal : Goal) : 0 < goal.rank := by
  cases goal <;> exact Nat.succ_pos _

namespace Session

variable {σ α : Type} (devices : Devices σ)

/-- How many channel requests are in the queue. -/
def requestCount (s : Session σ) : Nat := s.queue.countP (·.request?.isSome)

/-- What a session still has to do. -/
def work (s : Session σ) : Nat × Nat × Nat :=
  (s.requestCount, s.progress.rank, s.queue.length)

/-! ## What deliveries leave alone -/

section Undisturbed

variable [devices.Undisturbed]

/-- `s'` has as many channel requests in its queue as `s` and has come as far. -/
def SameStage (s s' : Session σ) : Prop :=
  s'.requestCount = s.requestCount ∧ s'.progress = s.progress

theorem SameStage.trans {s₁ s₂ s₃ : Session σ} (h₁ : SameStage s₁ s₂) (h₂ : SameStage s₂ s₃) :
    SameStage s₁ s₃ :=
  ⟨h₂.1.trans h₁.1, h₂.2.trans h₁.2⟩

theorem sameStage_post (s : Session σ) (signal : Signal) (h : signal.request? = none) :
    SameStage s (s.post signal) := by
  unfold post
  split
  · exact ⟨rfl, rfl⟩
  · exact ⟨by simp [requestCount, record, h], rfl⟩

theorem sameStage_receive (s : Session σ) (bytes : Bytes) : SameStage s (s.receive bytes) := by
  unfold receive
  split
  · exact sameStage_post _ _ rfl
  · exact ⟨rfl, rfl⟩

theorem sameStage_deliver (s : Session σ) {delivery : Delivery} (h : delivery.request? = none) :
    SameStage s (s.deliver delivery) := by
  cases delivery with
  | arrived bytes => exact sameStage_receive s bytes
  | status status => exact sameStage_post s _ rfl
  | request request => cases h
  | shutdown => exact sameStage_post s _ rfl

theorem sameStage_foldl_deliver (s : Session σ) {deliveries : List Delivery}
    (h : ∀ delivery ∈ deliveries, delivery.request? = none) :
    SameStage s (deliveries.foldl deliver s) := by
  induction deliveries generalizing s with
  | nil => exact ⟨rfl, rfl⟩
  | cons delivery deliveries ih =>
    rw [List.forall_mem_cons] at h
    exact (sameStage_deliver s h.1).trans (ih _ h.2)

theorem sameStage_absorb (s : Session σ) (event : Event) {reply : Reply σ α}
    (h : reply.Undisturbed) : SameStage s (s.absorb event reply) :=
  SameStage.trans ⟨rfl, rfl⟩ (sameStage_foldl_deliver _ h)

theorem sameStage_freeFilter (s : Session σ) : SameStage s (s.freeFilter devices) := by
  unfold freeFilter
  split
  · exact ⟨rfl, rfl⟩
  · exact SameStage.trans ⟨rfl, rfl⟩ (sameStage_absorb _ _ (Devices.Undisturbed.freeFilter _ _))

theorem sameStage_removeVideo (s : Session σ) : SameStage s (s.removeVideo devices) := by
  unfold removeVideo
  split
  · exact ⟨rfl, rfl⟩
  · exact SameStage.trans ⟨rfl, rfl⟩ (sameStage_absorb _ _ (Devices.Undisturbed.removeStream _ _))

theorem sameStage_removeAudio (s : Session σ) : SameStage s (s.removeAudio devices) := by
  unfold removeAudio
  split
  · exact ⟨rfl, rfl⟩
  · exact SameStage.trans ⟨rfl, rfl⟩ (sameStage_absorb _ _ (Devices.Undisturbed.removeStream _ _))

theorem sameStage_createStream (s : Session σ) (stream : Option Pmt.Stream) :
    SameStage s (s.createStream devices stream).2 := by
  unfold createStream
  split
  · exact ⟨rfl, rfl⟩
  · exact sameStage_absorb _ _ (Devices.Undisturbed.createStream _ _ _)

/-! ## Where the acquiring steps lead -/

/-- `s'` has no more channel requests in its queue than `s`, and its rank is at most `rank`. -/
def Reaches (rank : Nat) (s s' : Session σ) : Prop :=
  s'.requestCount ≤ s.requestCount ∧ s'.progress.rank ≤ rank

theorem Reaches.of_sameStage {n : Nat} {s t u : Session σ} (h₁ : SameStage s t)
    (h₂ : Reaches n t u) : Reaches n s u :=
  ⟨h₁.1 ▸ h₂.1, h₂.2⟩

theorem Reaches.mono {rank rank' : Nat} {s s' : Session σ} (h : Reaches rank s s')
    (hle : rank ≤ rank') : Reaches rank' s s' :=
  ⟨h.1, Nat.le_trans h.2 hle⟩

omit [devices.Undisturbed] in
theorem reaches_finish (rank : Nat) (s : Session σ) (outcome : Outcome) :
    Reaches rank s (s.finish devices outcome) :=
  ⟨Nat.zero_le _, Nat.zero_le _⟩

theorem reaches_await (s : Session σ) (goal : Goal) : Reaches goal.rank s (s.await goal) :=
  ⟨Nat.le_refl _, Nat.le_refl _⟩

theorem reaches_awaitTable (s : Session σ) (pid : Nat) (kind : TableKind) (goal : Goal) :
    Reaches goal.rank s (s.awaitTable devices pid kind goal) := by
  refine Reaches.of_sameStage (sameStage_freeFilter devices s) ?_
  unfold awaitTable
  extract_lets s₁ s₂ reply s₃
  refine Reaches.of_sameStage (t := s₃)
    (SameStage.trans ⟨rfl, rfl⟩
      (sameStage_absorb s₂ _ (Devices.Undisturbed.setFilter _ _ _))) ?_
  split
  · exact reaches_finish ..
  · exact ⟨Nat.le_refl _, Nat.le_refl _⟩

theorem reaches_begin (s : Session σ) : Reaches 6 s (s.begin devices) := by
  unfold begin
  extract_lets s₁ reply s₂
  refine Reaches.of_sameStage (t := s₂)
    (SameStage.trans ⟨rfl, rfl⟩ (sameStage_absorb s₁ _ (Devices.Undisturbed.lock _ _))) ?_
  split
  · exact reaches_finish ..
  · exact ⟨Nat.le_refl _, Nat.le_refl _⟩

theorem reaches_findPat (s : Session σ) : Reaches 5 s (s.findPat devices) := by
  unfold findPat
  extract_lets s₁ reply s₂
  refine Reaches.of_sameStage (t := s₂)
    (SameStage.trans ⟨rfl, rfl⟩
      (sameStage_absorb s₁ _ (Devices.Undisturbed.openSource _))) ?_
  split
  · exact reaches_finish ..
  · exact Reaches.of_sameStage (by exact ⟨rfl, rfl⟩) (reaches_awaitTable devices _ _ _ .pat)

theorem reaches_findPmt (s : Session σ) : Reaches 4 s (s.findPmt devices) := by
  unfold findPmt
  split
  · exact reaches_finish ..
  · exact Reaches.of_sameStage (by exact ⟨rfl, rfl⟩) (reaches_awaitTable devices _ _ _ (.pmt _))

theorem reaches_adoptPat (s : Session σ) (pat : Pat) : Reaches 4 s (s.adoptPat devices pat) := by
  unfold adoptPat
  extract_lets count
  split
  · exact reaches_finish ..
  · exact Reaches.of_sameStage (by exact ⟨rfl, rfl⟩) (reaches_findPmt devices _)

theorem reaches_announce (s : Session σ) (channel : ChannelInfo) :
    Reaches 3 s (s.announce devices channel) := by
  unfold announce
  extract_lets s₁ s₂
  refine Reaches.of_sameStage (t := s₂) ⟨rfl, rfl⟩ ?_
  split
  · exact (reaches_await s₂ .request).mono (by decide)
  · exact Reaches.of_sameStage (by exact ⟨rfl, rfl⟩) (reaches_awaitTable devices _ _ _ .tdt)

theorem sameStage_of_createStream {s s' : Session σ} {stream : Option Pmt.Stream}
    {result : Except DeviceError (Option (Nat × StreamHandle))}
    (h : s.createStream devices stream = (result, s')) : SameStage s s' := by
  have hs := sameStage_createStream devices s stream
  rw [h] at hs
  exact hs

theorem reaches_bindAudio (s : Session σ) (pmt : Pmt) (videoPid : Option Nat) :
    Reaches 3 s (s.bindAudio devices pmt videoPid) := by
  unfold bindAudio
  rcases h : s.createStream devices pmt.firstAudio? with ⟨audio, s'⟩
  refine Reaches.of_sameStage (sameStage_of_createStream devices h) ?_
  cases audio with
  | error error => exact reaches_finish ..
  | ok audio => exact Reaches.of_sameStage (by exact ⟨rfl, rfl⟩) (reaches_announce devices _ _)

theorem reaches_bindVideo (s : Session σ) (pmt : Pmt) : Reaches 3 s (s.bindVideo devices pmt) := by
  unfold bindVideo
  rcases h : s.createStream devices pmt.firstVideo? with ⟨video, s'⟩
  refine Reaches.of_sameStage (sameStage_of_createStream devices h) ?_
  cases video with
  | error error => exact reaches_finish ..
  | ok video => exact Reaches.of_sameStage (by exact ⟨rfl, rfl⟩) (reaches_bindAudio devices _ _ _)

theorem reaches_bindStreams (s : Session σ) (pmt : Pmt) :
    Reaches 3 s (s.bindStreams devices pmt) :=
  Reaches.of_sameStage
    ((sameStage_removeVideo devices s).trans (sameStage_removeAudio devices _))
    (reaches_bindVideo devices _ _)

theorem reaches_resolveTime (s : Session σ) (utc : DateTime) (capturedAt : Int) (tot : Tot) :
    Reaches 1 s (s.resolveTime devices utc capturedAt tot) := by
  refine Reaches.of_sameStage (sameStage_freeFilter devices s) ?_
  unfold resolveTime
  extract_lets s₁ time s₂
  exact Reaches.of_sameStage (t := s₂.record _) ⟨rfl, rfl⟩ (reaches_await _ .request)

/-! ## Every step makes the work smaller -/

/-- What meets a goal leads to a goal of a smaller rank. -/
theorem reaches_proceed {s : Session σ} {goal : Goal} {registry : Registry} {mark : Nat}
    {signal : Signal} {arrival : Arrival} (h : goal.met? registry mark signal = some arrival) :
    Reaches (goal.rank - 1) s (s.proceed devices arrival) := by
  unfold Goal.met? at h
  split at h
  · cases h; exact reaches_findPat devices s
  · obtain ⟨pat, -, rfl⟩ := Option.map_eq_some_iff.1 h
    exact reaches_adoptPat devices s pat
  · obtain ⟨pmt, -, rfl⟩ := Option.map_eq_some_iff.1 h
    exact reaches_bindStreams devices s pmt
  · obtain ⟨utc, -, rfl⟩ := Option.map_eq_some_iff.1 h
    exact Reaches.of_sameStage (by exact ⟨rfl, rfl⟩)
      (reaches_awaitTable devices _ _ _ (.tot utc _))
  · obtain ⟨tot, -, rfl⟩ := Option.map_eq_some_iff.1 h
    exact reaches_resolveTime devices s _ _ tot
  · cases h

/-- The order in which work is compared: requests first, then the rank, then the queue. -/
abbrev LessWork : Nat × Nat × Nat → Nat × Nat × Nat → Prop :=
  Prod.Lex (· < ·) (Prod.Lex (· < ·) (· < ·))

theorem lessWork_of_reaches {n : Nat} {s s' : Session σ} (h : Reaches n s s')
    (hlt : n < s.progress.rank) : LessWork s'.work s.work := by
  rcases Nat.lt_or_eq_of_le h.1 with hc | hc
  · exact Prod.Lex.left _ _ hc
  · simp only [work, hc]
    exact Prod.Lex.right _ (Prod.Lex.left _ _ (Nat.lt_of_le_of_lt h.2 hlt))

theorem changeChannel_requestCount_le (s : Session σ) (goal : Goal) (request : ChannelRequest) :
    (s.changeChannel devices goal request).requestCount ≤ s.requestCount := by
  unfold changeChannel
  split
  · exact Nat.le_refl _
  · split
    · next index _ => exact (reaches_findPmt devices { s with index }).1
    · exact Nat.le_refl _

theorem lessWork_of_react {s : Session σ} {goal : Goal} {since : Nat} {signal : Signal}
    {rest : List Signal} (hprogress : s.progress = .waiting goal since)
    (hqueue : s.queue = signal :: rest) :
    LessWork (({ s with queue := rest }.record (.took signal)).react devices goal signal).work
      s.work := by
  generalize ht : { s with queue := rest }.record (.took signal) = t
  have hrank : s.progress.rank = goal.rank := by rw [hprogress]; rfl
  have htrank : t.progress = s.progress := by rw [← ht]; rfl
  have htqueue : t.queue = rest := by rw [← ht]; rfl
  have hcount : s.requestCount = t.requestCount + if signal.request?.isSome then 1 else 0 := by
    simp only [requestCount, hqueue, htqueue, List.countP_cons]
  have hle : t.requestCount ≤ s.requestCount := by omega
  unfold react
  split
  · next arrival harrival =>
    have h := reaches_proceed devices (s := t) harrival
    exact lessWork_of_reaches (n := goal.rank - 1) ⟨Nat.le_trans h.1 hle, h.2⟩
      (by have := goal.rank_pos; omega)
  · split
    · have h := reaches_finish devices 0 t (.ok ())
      exact lessWork_of_reaches (n := 0) ⟨Nat.le_trans h.1 hle, h.2⟩
        (by have := goal.rank_pos; omega)
    · next request _ =>
      refine Prod.Lex.left _ _ ?_
      have := changeChannel_requestCount_le devices t goal request
      simp only [Signal.request?, Option.isSome_some, if_true] at hcount
      omega
    all_goals
      have heq : t.requestCount = s.requestCount := by rw [hcount]; rfl
      simp only [work, heq, htrank, htqueue, hqueue]
      exact Prod.Lex.right _ (Prod.Lex.right _ (Nat.lt_succ_self _))

theorem lessWork_of_step? {s s' : Session σ} (h : s.step? devices = some s') :
    LessWork s'.work s.work := by
  unfold step? at h
  split at h
  · next hprogress =>
    cases h
    exact lessWork_of_reaches (reaches_begin devices s) (by rw [hprogress]; decide)
  · cases h
  · next goal since hprogress =>
    split at h
    · next signal rest hqueue =>
      cases h
      exact lessWork_of_react devices hprogress hqueue
    · obtain ⟨limit, -, rfl⟩ := Option.map_eq_some_iff.1 h
      exact lessWork_of_reaches (reaches_finish devices 0 s _)
        (by rw [hprogress]; exact goal.rank_pos)

theorem wellFounded_lessWork : WellFounded LessWork :=
  (Prod.lex Nat.lt_wfRel (Prod.lex Nat.lt_wfRel Nat.lt_wfRel)).wf

end Undisturbed

/-- The session after all that it can do by itself without time passing. -/
def settle [devices.Undisturbed] (s : Session σ) : Session σ :=
  match _h : s.step? devices with
  | some next => next.settle
  | none => s
termination_by wellFounded_lessWork.wrap s.work
decreasing_by exact lessWork_of_step? devices _h

end Session

end DvbReceiver
