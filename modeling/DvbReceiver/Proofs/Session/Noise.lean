import DvbReceiver.Proofs.Session.Actions

/-!
# Noise

A status that the tuner is not locked, and a request for the channel that has the index 0, change
nothing but the queue that they wait in, and a section that cannot be decoded not even that. Two
sessions are `Alike` if they differ by such signals only. Whatever a session does, two that are
alike do alike, and so they stay alike until both have nothing left to do (`Alike.settle`).
-/

namespace DvbReceiver

/-- A session takes no notice of the signal. -/
def Signal.isNoise : Signal → Bool
  | tunerStatus .notLocked | channelChange (.direct 0) => true
  | _ => false

/-- A session takes no notice of the delivery. -/
def Delivery.IsNoise : Delivery → Prop
  | arrived bytes => ∀ table, Table.ofSection? bytes ≠ some (.ok table)
  | status reported => reported = .notLocked
  | request asked => asked = .direct 0
  | shutdown => False

theorem Signal.eq_of_isNoise {signal : Signal} (h : signal.isNoise = true) :
    signal = .tunerStatus .notLocked ∨ signal = .channelChange (.direct 0) := by
  unfold isNoise at h
  split at h
  · exact Or.inl rfl
  · exact Or.inr rfl
  · cases h

/-- Noise meets no goal. -/
theorem Goal.met?_of_isNoise (goal : Goal) {registry : Registry} {mark : Nat} {signal : Signal}
    (h : signal.isNoise = true) : goal.met? registry mark signal = none := by
  rcases Signal.eq_of_isNoise h with rfl | rfl <;> cases goal <;> rfl

namespace Channel

/-- A request for the index 0 leads nowhere. -/
theorem next?_direct_zero (current count : Nat) : next? current count (.direct 0) = none := by
  simp [next?, first]

/-- Such requests may be left out. -/
theorem foldl_step_filter (count index : Nat) (requests : List ChannelRequest) :
    (requests.filter (· ≠ .direct 0)).foldl (step count) index =
      requests.foldl (step count) index := by
  induction requests generalizing index with
  | nil => rfl
  | cons request requests ih =>
    by_cases hrequest : request = .direct 0
    · rw [List.filter_cons_of_neg (by simp [hrequest]), ih, List.foldl_cons, hrequest, step,
        next?_direct_zero]
      rfl
    · rw [List.filter_cons_of_pos (by simp [hrequest]), List.foldl_cons, ih, List.foldl_cons]

end Channel

/-- The entry notes that noise came or went. -/
def Entry.isNoise : Entry → Bool
  | queued signal | took signal => signal.isNoise
  | _ => false

namespace Session

variable {σ α : Type} (devices : Devices σ) {s t u : Session σ}

/-- The session without the noise. -/
def hush (s : Session σ) : Session σ :=
  { s with
    queue := s.queue.filter (!·.isNoise)
    deferred := s.deferred.filter (· ≠ .direct 0)
    journal := s.journal.filter (!·.isNoise) }

/-- The sessions differ by noise only. -/
def Alike (s t : Session σ) : Prop := s.hush = t.hush

namespace Alike

theorem exists_eq (h : Alike s t) :
    ∃ queue deferred journal, t = { s with queue, deferred, journal } := by
  refine ⟨t.queue, t.deferred, t.journal, ?_⟩
  have heq : { t.hush with queue := t.queue, deferred := t.deferred, journal := t.journal } =
      { s.hush with queue := t.queue, deferred := t.deferred, journal := t.journal } :=
    congrArg (fun u : Session σ =>
      { u with queue := t.queue, deferred := t.deferred, journal := t.journal }) h.symm
  exact heq

theorem map (h : Alike s t) (f : Session σ → Session σ) (hf : ∀ u, (f u).hush = f u.hush) :
    Alike (f s) (f t) := by
  rw [Alike, hf, hf, h]

theorem field (h : Alike s t) (f : Session σ → α) : f t.hush = f s.hush := congrArg f h.symm

theorem config (h : Alike s t) : t.config = s.config := h.field Session.config

theorem hardware (h : Alike s t) : t.hardware = s.hardware := h.field Session.hardware

theorem clock (h : Alike s t) : t.clock = s.clock := h.field Session.clock

theorem registry (h : Alike s t) : t.registry = s.registry := h.field Session.registry

theorem phase (h : Alike s t) : t.phase = s.phase := h.field Session.phase

theorem channel (h : Alike s t) : t.channel = s.channel := h.field Session.channel

theorem progress (h : Alike s t) : t.progress = s.progress := h.field Session.progress

theorem outcome? (h : Alike s t) : t.outcome? = s.outcome? := h.field Session.outcome?

/-! ## Deliveries -/

theorem record (h : Alike s t) (entry : Entry) : Alike (s.record entry) (t.record entry) := by
  have hrecord : ∀ u : Session σ, (u.record entry).hush =
      { u.hush with journal := u.hush.journal ++ [entry].filter (!·.isNoise) } := by
    intro u
    simp [hush, Session.record]
  rw [Alike, hrecord, hrecord, h]

theorem enter (h : Alike s t) (phase : Phase) : Alike (s.enter phase) (t.enter phase) :=
  (h.map (fun u => { u with phase }) fun _ => rfl).record _

theorem await (h : Alike s t) (goal : Goal) : Alike (s.await goal) (t.await goal) :=
  h.map (·.await goal) fun _ => rfl

theorem post (h : Alike s t) (signal : Signal) : Alike (s.post signal) (t.post signal) := by
  have hpost : ∀ u : Session σ, u.outcome? = none → (u.post signal).hush =
      { u.hush with
        queue := u.hush.queue ++ [signal].filter (!·.isNoise)
        journal := u.hush.journal ++ [.queued signal].filter (!·.isNoise) } := by
    intro u hlive
    simp [Session.post, hlive, hush, Session.record]
  rcases hlive : s.outcome? with _ | outcome
  · rw [Alike, hpost s hlive, hpost t (h.outcome?.trans hlive), h]
  · rw [post_of_outcome? hlive, post_of_outcome? (h.outcome?.trans hlive)]
    exact h

theorem receive (h : Alike s t) (bytes : Bytes) : Alike (s.receive bytes) (t.receive bytes) := by
  unfold Session.receive
  split
  · next table _ =>
    have hstored := h.map (fun u => { u with registry := u.registry.store table }) fun _ => rfl
    exact (hstored.record (.stored table)).post _
  · exact h

theorem deliver (h : Alike s t) (delivery : Delivery) :
    Alike (s.deliver delivery) (t.deliver delivery) := by
  cases delivery with
  | arrived bytes => exact h.receive bytes
  | status status => exact h.post _
  | request request => exact h.post _
  | shutdown => exact h.post _

theorem of_post {signal : Signal} (hsignal : signal.isNoise = true) (s : Session σ) :
    Alike s (s.post signal) := by
  rcases hlive : s.outcome? with _ | outcome
  · simp [Alike, Session.post, hlive, hush, Session.record, hsignal, Entry.isNoise]
  · rw [post_of_outcome? hlive]
    rfl

/-- A delivery that is noise changes nothing else. -/
theorem of_deliver {delivery : Delivery} (hdelivery : delivery.IsNoise) (s : Session σ) :
    Alike s (s.deliver delivery) := by
  cases delivery with
  | arrived bytes =>
    have heq : s.receive bytes = s := by
      unfold Session.receive
      split
      · next table htable => exact absurd htable (hdelivery table)
      · rfl
    rw [Session.deliver, heq]
    rfl
  | status status =>
    obtain rfl : status = .notLocked := hdelivery
    exact of_post rfl s
  | request request =>
    obtain rfl : request = .direct 0 := hdelivery
    exact of_post rfl s
  | shutdown => exact hdelivery.elim

theorem foldl_deliver (h : Alike s t) (deliveries : List Delivery) :
    Alike (deliveries.foldl Session.deliver s) (deliveries.foldl Session.deliver t) := by
  induction deliveries generalizing s t with
  | nil => exact h
  | cons delivery deliveries ih => exact ih (h.deliver delivery)

theorem absorb (h : Alike s t) (event : Event) (reply : Reply σ α) :
    Alike (s.absorb event reply) (t.absorb event reply) := by
  have hmade := h.map (fun u => { u with hardware := reply.hardware }) fun _ => rfl
  exact (hmade.record (.event event)).foldl_deliver reply.delivered

/-! ## Giving back -/

theorem freeFilter (h : Alike s t) : Alike (s.freeFilter devices) (t.freeFilter devices) := by
  obtain ⟨queue, deferred, journal, rfl⟩ := h.exists_eq
  simp only [Session.freeFilter]
  split
  · exact h
  · exact (h.map (fun u => { u with held.filter := none }) fun _ => rfl).absorb _ _

theorem removeVideo (h : Alike s t) : Alike (s.removeVideo devices) (t.removeVideo devices) := by
  obtain ⟨queue, deferred, journal, rfl⟩ := h.exists_eq
  simp only [Session.removeVideo]
  split
  · exact h
  · exact (h.map (fun u => { u with held.video := none }) fun _ => rfl).absorb _ _

theorem removeAudio (h : Alike s t) : Alike (s.removeAudio devices) (t.removeAudio devices) := by
  obtain ⟨queue, deferred, journal, rfl⟩ := h.exists_eq
  simp only [Session.removeAudio]
  split
  · exact h
  · exact (h.map (fun u => { u with held.audio := none }) fun _ => rfl).absorb _ _

theorem closeSource (h : Alike s t) : Alike (s.closeSource devices) (t.closeSource devices) := by
  obtain ⟨queue, deferred, journal, rfl⟩ := h.exists_eq
  simp only [Session.closeSource]
  split
  · exact (h.map (fun u => { u with held.sourceOpen := false }) fun _ => rfl).absorb _ _
  · exact h

theorem releaseTuner (h : Alike s t) : Alike (s.releaseTuner devices) (t.releaseTuner devices) := by
  obtain ⟨queue, deferred, journal, rfl⟩ := h.exists_eq
  simp only [Session.releaseTuner]
  split
  · exact (h.map (fun u => { u with held.tunerEngaged := false }) fun _ => rfl).absorb _ _
  · exact h

theorem tearDown (h : Alike s t) : Alike (s.tearDown devices) (t.tearDown devices) := by
  have hgiven := ((((h.freeFilter devices).removeVideo devices).removeAudio devices).closeSource
    devices).releaseTuner devices
  have hcleared := hgiven.map (fun u => { u with registry := u.registry.clear, channel := none })
    fun _ => rfl
  exact hcleared.enter .tornDown

theorem finish (h : Alike s t) (outcome : Outcome) :
    Alike (s.finish devices outcome) (t.finish devices outcome) :=
  ((h.record (.ended outcome)).tearDown devices).map
    (fun u => { u with progress := .finished outcome, queue := [] }) fun _ => rfl

/-! ## Acquiring -/

theorem awaitTable (h : Alike s t) (pid : Nat) (kind : TableKind) (goal : Goal) :
    Alike (s.awaitTable devices pid kind goal) (t.awaitTable devices pid kind goal) := by
  have hmarked := (h.freeFilter devices).map (fun u => { u with mark := u.registry.sequence })
    fun _ => rfl
  unfold Session.awaitTable
  generalize s.freeFilter devices = u at hmarked ⊢
  generalize t.freeFilter devices = v at hmarked ⊢
  have hhardware : v.hardware = u.hardware := hmarked.hardware
  simp only [hhardware]
  have hasked := hmarked.absorb
    (.setFilter pid kind.tableId (devices.setFilter pid kind.tableId u.hardware).result)
    (devices.setFilter pid kind.tableId u.hardware)
  split
  · exact hasked.finish devices _
  · next handle _ =>
    exact (hasked.map (fun u => { u with held.filter := some handle }) fun _ => rfl).await goal

theorem begin (h : Alike s t) : Alike (s.begin devices) (t.begin devices) := by
  have hentered := h.enter .tunerLocking
  unfold Session.begin
  generalize s.enter .tunerLocking = u at hentered ⊢
  generalize t.enter .tunerLocking = v at hentered ⊢
  simp only [hentered.hardware, hentered.config]
  have hasked := hentered.absorb
    (.lock u.config.toTuning (devices.lock u.config.toTuning u.hardware).result)
    (devices.lock u.config.toTuning u.hardware)
  split
  · exact hasked.finish devices _
  · exact (hasked.map (fun u => { u with held.tunerEngaged := true }) fun _ => rfl).await .locked

theorem findPat (h : Alike s t) : Alike (s.findPat devices) (t.findPat devices) := by
  have hentered := h.enter .awaitingPat
  unfold Session.findPat
  generalize s.enter .awaitingPat = u at hentered ⊢
  generalize t.enter .awaitingPat = v at hentered ⊢
  simp only [hentered.hardware]
  have hasked := hentered.absorb (.openSource (devices.openSource u.hardware).result)
    (devices.openSource u.hardware)
  split
  · exact hasked.finish devices _
  · exact (hasked.map (fun u => { u with held.sourceOpen := true }) fun _ => rfl).awaitTable devices
      patPid .pat .pat

theorem findPmt (h : Alike s t) : Alike (s.findPmt devices) (t.findPmt devices) := by
  obtain ⟨queue, deferred, journal, rfl⟩ := h.exists_eq
  simp only [Session.findPmt]
  split
  · exact h.finish devices _
  · exact (h.enter .awaitingPmt).awaitTable devices _ _ _

theorem findTdt (h : Alike s t) : Alike (s.findTdt devices) (t.findTdt devices) :=
  (h.enter .awaitingTdt).awaitTable devices _ _ _

theorem findTot (h : Alike s t) (utc : DateTime) :
    Alike (s.findTot devices utc) (t.findTot devices utc) := by
  unfold Session.findTot
  rw [h.clock]
  exact (h.enter .awaitingTot).awaitTable devices _ _ _

theorem adoptPat (h : Alike s t) (pat : Pat) :
    Alike (s.adoptPat devices pat) (t.adoptPat devices pat) := by
  have hindex : t.deferred.foldl (Channel.step pat.serviceCount)
        (Channel.initial pat.serviceCount t.config.initialChannel) =
      s.deferred.foldl (Channel.step pat.serviceCount)
        (Channel.initial pat.serviceCount s.config.initialChannel) := by
    rw [← Channel.foldl_step_filter, ← Channel.foldl_step_filter _ _ s.deferred, h.config]
    exact congrArg (List.foldl _ _) (h.field Session.deferred)
  unfold Session.adoptPat
  simp only
  rw [hindex]
  generalize s.deferred.foldl _ _ = index
  split
  · exact h.finish devices _
  · exact (h.map (fun u => { u with services := pat.services.items, index, deferred := [] })
      fun _ => rfl).findPmt devices

theorem createStream (h : Alike s t) (stream : Option Pmt.Stream) :
    ∃ result u v, s.createStream devices stream = (result, u) ∧
      t.createStream devices stream = (result, v) ∧ Alike u v := by
  unfold Session.createStream
  rw [h.hardware]
  split
  · exact ⟨_, _, _, rfl, rfl, h⟩
  · exact ⟨_, _, _, rfl, rfl, h.absorb _ _⟩

theorem announce (h : Alike s t) (channel : ChannelInfo) :
    Alike (s.announce devices channel) (t.announce devices channel) := by
  have hshown := h.map (fun u => { u with channel := some channel }) fun _ => rfl
  have hgoes : ∀ {u v : Session σ}, Alike u v →
      Alike (if u.timeIsResolved then u.await .request else u.findTdt devices)
        (if v.timeIsResolved then v.await .request else v.findTdt devices) := by
    intro u v huv
    rw [show v.timeIsResolved = u.timeIsResolved from huv.field Session.timeIsResolved]
    split
    · exact huv.await .request
    · exact huv.findTdt devices
  exact hgoes ((hshown.enter .streamsBound).record (.event (.channelBound channel)))

theorem bindAudio (h : Alike s t) (pmt : Pmt) (videoPid : Option Nat) :
    Alike (s.bindAudio devices pmt videoPid) (t.bindAudio devices pmt videoPid) := by
  obtain ⟨result, u, v, hu, hv, hcreated⟩ := h.createStream devices pmt.firstAudio?
  unfold Session.bindAudio
  rw [hu, hv]
  rcases result with error | audio
  · exact hcreated.finish devices _
  · exact (hcreated.map (fun u => { u with held.audio := audio.map Prod.snd })
      fun _ => rfl).announce devices _

theorem bindVideo (h : Alike s t) (pmt : Pmt) :
    Alike (s.bindVideo devices pmt) (t.bindVideo devices pmt) := by
  obtain ⟨result, u, v, hu, hv, hcreated⟩ := h.createStream devices pmt.firstVideo?
  unfold Session.bindVideo
  rw [hu, hv]
  rcases result with error | video
  · exact hcreated.finish devices _
  · exact (hcreated.map (fun u => { u with held.video := video.map Prod.snd })
      fun _ => rfl).bindAudio devices pmt _

theorem bindStreams (h : Alike s t) (pmt : Pmt) :
    Alike (s.bindStreams devices pmt) (t.bindStreams devices pmt) :=
  ((h.removeVideo devices).removeAudio devices).bindVideo devices pmt

theorem resolveTime (h : Alike s t) (utc : DateTime) (capturedAt : Int) (tot : Tot) :
    Alike (s.resolveTime devices utc capturedAt tot)
      (t.resolveTime devices utc capturedAt tot) := by
  have hfreed := h.freeFilter devices
  have hresolved := hfreed.map (fun u => { u with timeIsResolved := true }) fun _ => rfl
  have hentered := hresolved.enter .timeResolved
  unfold Session.resolveTime
  generalize s.freeFilter devices = u at hfreed hentered ⊢
  generalize t.freeFilter devices = v at hfreed hentered ⊢
  obtain ⟨queue, deferred, journal, rfl⟩ := hfreed.exists_eq
  exact (hentered.record _).await .request

theorem proceed (h : Alike s t) (arrival : Arrival) :
    Alike (s.proceed devices arrival) (t.proceed devices arrival) := by
  cases arrival with
  | locked => exact h.findPat devices
  | pat pat => exact h.adoptPat devices pat
  | pmt pmt => exact h.bindStreams devices pmt
  | tdt utc => exact h.findTot devices utc
  | tot utc capturedAt tot => exact h.resolveTime devices utc capturedAt tot

/-! ## Reacting -/

theorem take (h : Alike s t) (signal : Signal) {rest rest' : List Signal}
    (hrest : rest.filter (!·.isNoise) = rest'.filter (!·.isNoise)) :
    Alike (s.take signal rest) (t.take signal rest') := by
  have hqueue : Alike { s with queue := rest } { t with queue := rest' } := by
    have heq : { s.hush with queue := rest.filter (!·.isNoise) } =
        { t.hush with queue := rest'.filter (!·.isNoise) } := by
      rw [hrest, h]
    exact heq
  exact hqueue.record _

theorem changeChannel (h : Alike s t) (goal : Goal) (request : ChannelRequest) :
    Alike (s.changeChannel devices goal request) (t.changeChannel devices goal request) := by
  have hdefer : ∀ u : Session σ, { u with deferred := u.deferred ++ [request] }.hush =
      { u.hush with deferred := u.hush.deferred ++ [request].filter (· ≠ .direct 0) } := by
    intro u
    simp [hush]
  unfold Session.changeChannel
  split
  · rw [Alike, hdefer, hdefer, h]
  · have hnext : Channel.next? t.index t.services.length request =
        Channel.next? s.index s.services.length request := by
      rw [show t.index = s.index from h.field Session.index,
        show t.services = s.services from h.field Session.services]
    rw [hnext]
    split
    · next index _ => exact (h.map (fun u => { u with index }) fun _ => rfl).findPmt devices
    · exact h

theorem react (h : Alike s t) (goal : Goal) (signal : Signal) :
    Alike (s.react devices goal signal) (t.react devices goal signal) := by
  unfold Session.react
  rw [h.registry, show t.mark = s.mark from h.field Session.mark]
  split
  · exact h.proceed devices _
  · split
    · exact h.finish devices _
    · exact h.changeChannel devices goal _
    · exact h
    · exact h

end Alike

/-! ## Steps -/

/-- The first signal that the session is to take is not noise. -/
def Keen (s : Session σ) : Prop :=
  ∀ goal since signal rest, s.progress = .waiting goal since → s.queue = signal :: rest →
    signal.isNoise = false

theorem exists_noise (h : ¬s.Keen) :
    ∃ goal since signal rest, s.progress = .waiting goal since ∧ s.queue = signal :: rest ∧
      signal.isNoise = true := by
  simpa only [Keen, not_forall, Bool.not_eq_false, exists_prop] using h

/-- Noise is passed over. -/
theorem alike_of_noise {goal : Goal} {since : Nat} {signal : Signal} {rest : List Signal}
    (hprogress : s.progress = .waiting goal since) (hqueue : s.queue = signal :: rest)
    (hsignal : signal.isNoise = true) :
    ∃ t, s.step? devices = some t ∧ Alike s t ∧ t.queue = rest := by
  have htaken : Alike s (s.take signal rest) := by
    simp [Alike, hush, take, record, hqueue, hsignal, Entry.isNoise]
  refine ⟨_, step?_of_cons devices hprogress hqueue, ?_⟩
  have hmet : goal.met? (s.take signal rest).registry (s.take signal rest).mark signal = none :=
    goal.met?_of_isNoise hsignal
  unfold react
  rw [hmet]
  rcases Signal.eq_of_isNoise hsignal with rfl | rfl
  · exact ⟨htaken, rfl⟩
  · simp only [changeChannel, Channel.next?_direct_zero]
    split
    · refine ⟨htaken.trans ?_, rfl⟩
      simp [hush, take, record]
    · exact ⟨htaken, rfl⟩

/-- Keen sessions that are alike do alike. -/
theorem Alike.step? (h : Alike s t) (hs : Keen s) (ht : Keen t) :
    Option.Rel Alike (s.step? devices) (t.step? devices) := by
  have hqueue : t.queue.filter (!·.isNoise) = s.queue.filter (!·.isNoise) := h.field Session.queue
  rcases hprogress : s.progress with _ | ⟨goal, since⟩ | outcome
  · rw [Session.step?, hprogress, Session.step?, h.progress, hprogress]
    exact .some (h.begin devices)
  · have hsame : t.progress = .waiting goal since := h.progress.trans hprogress
    rcases hqueue_s : s.queue with _ | ⟨signal, rest⟩ <;>
      rcases hqueue_t : t.queue with _ | ⟨signal', rest'⟩ <;>
      rw [hqueue_s, hqueue_t] at hqueue
    · have hlimit : t.passedLimit? goal since = s.passedLimit? goal since := by
        rw [passedLimit?, h.config, show t.alarm = s.alarm from h.field Session.alarm, passedLimit?]
      rw [step?_of_nil devices hprogress hqueue_s, step?_of_nil devices hsame hqueue_t, hlimit,
        h.phase]
      rcases s.passedLimit? goal since with _ | limit
      · exact .none
      · exact .some (h.finish devices _)
    · have hsignal := ht _ _ _ _ hsame hqueue_t
      simp [hsignal] at hqueue
    · have hsignal := hs _ _ _ _ hprogress hqueue_s
      simp [hsignal] at hqueue
    · have hsignal := hs _ _ _ _ hprogress hqueue_s
      have hsignal' := ht _ _ _ _ hsame hqueue_t
      rw [List.filter_cons_of_pos (by simp [hsignal']), List.filter_cons_of_pos (by simp [hsignal]),
        List.cons.injEq] at hqueue
      obtain ⟨rfl, hrest⟩ := hqueue
      rw [step?_of_cons devices hprogress hqueue_s, step?_of_cons devices hsame hqueue_t]
      exact .some ((h.take signal' hrest.symm).react devices goal signal')
  · rw [Session.step?, hprogress, Session.step?, h.progress, hprogress]
    exact .none

/-! ## What the application sees and does -/

theorem Alike.noticeTime (h : Alike s t) : Alike s.noticeTime t.noticeTime :=
  h.map Session.noticeTime fun _ => rfl

theorem Alike.request (h : Alike s t) (request : ChannelRequest) :
    (t.request request).1 = (s.request request).1 ∧
      Alike (s.request request).2 (t.request request).2 := by
  unfold Session.request
  rw [h.outcome?]
  split
  · exact ⟨rfl, h⟩
  · exact ⟨rfl, h.post _⟩

/-- A request for the index 0 is noise, whatever comes of it. -/
theorem Alike.of_request (s : Session σ) : Alike s (s.request (.direct 0)).2 := by
  unfold Session.request
  split
  · rfl
  · exact of_post rfl s

theorem Alike.events (h : Alike s t) : t.events = s.events := by
  have hevents : ∀ journal : List Entry,
      Journal.events (journal.filter (!·.isNoise)) = Journal.events journal := by
    intro journal
    rw [Journal.events, List.filterMap_filter]
    refine congrArg (List.filterMap · journal) (funext fun entry => ?_)
    cases entry <;> simp [Entry.isNoise, Entry.event?]
  have hfiltered : Journal.events t.hush.journal = Journal.events s.hush.journal :=
    h.field fun u => Journal.events u.journal
  exact (hevents t.journal).symm.trans (hfiltered.trans (hevents s.journal))

/-! ## Settling -/

section Undisturbed

variable [devices.Undisturbed]

/-- Passing over noise, a session becomes keen. -/
theorem exists_keen (s : Session σ) :
    ∃ t, Alike s t ∧ t.settle devices = s.settle devices ∧ Keen t := by
  generalize hqueue : s.queue = queue
  induction queue generalizing s with
  | nil =>
    refine ⟨s, rfl, rfl, fun _ _ _ _ _ hcons => ?_⟩
    cases hqueue.symm.trans hcons
  | cons signal rest ih =>
    by_cases hkeen : s.Keen
    · exact ⟨s, rfl, rfl, hkeen⟩
    · obtain ⟨goal, since, signal', rest', hprogress, hcons, hsignal⟩ := exists_noise hkeen
      cases hqueue.symm.trans hcons
      obtain ⟨t, hstep, halike, hrest⟩ := alike_of_noise devices hprogress hcons hsignal
      obtain ⟨u, hu, hsettle, hkeen⟩ := ih t hrest
      exact ⟨u, halike.trans hu, hsettle.trans (settle_of_step? devices hstep).symm, hkeen⟩

/-- **Sessions that are alike settle alike.** -/
theorem Alike.settle (h : Alike s t) : Alike (s.settle devices) (t.settle devices) := by
  fun_induction Session.settle devices s generalizing t with
  | case1 s next hstep ih =>
    by_cases hkeen : s.Keen
    · obtain ⟨u, halike, hsettle, hu⟩ := exists_keen devices t
      have hsteps := Alike.step? devices (h.trans halike) hkeen hu
      rw [hstep] at hsteps
      rcases hnext : u.step? devices with _ | v
      · rw [hnext] at hsteps
        cases hsteps
      · rw [hnext] at hsteps
        cases hsteps with
        | some hv =>
          rw [← hsettle, settle_of_step? devices hnext]
          exact ih hv
    · obtain ⟨goal, since, signal, rest, hprogress, hqueue, hsignal⟩ := exists_noise hkeen
      obtain ⟨u, hu, halike, -⟩ := alike_of_noise devices hprogress hqueue hsignal
      obtain rfl : u = next := Option.some.inj (hu.symm.trans hstep)
      exact ih (halike.symm.trans h)
  | case2 s hnone =>
    obtain ⟨u, halike, hsettle, hu⟩ := exists_keen devices t
    have hkeen : s.Keen := by
      intro goal since signal rest hprogress hqueue
      rw [step?_of_cons devices hprogress hqueue] at hnone
      cases hnone
    have hsteps := Alike.step? devices (h.trans halike) hkeen hu
    rw [hnone] at hsteps
    rcases hnext : u.step? devices with _ | v
    · rw [← hsettle, settle_of_step?_eq_none devices hnext]
      exact h.trans halike
    · rw [hnext] at hsteps
      cases hsteps

theorem Alike.advance (h : Alike s t) (milliseconds : Nat) :
    Alike (s.advance devices milliseconds) (t.advance devices milliseconds) := by
  have hlater := h.map (fun u => { u with clock := u.clock + milliseconds }) fun _ => rfl
  exact (hlater.settle devices).noticeTime

theorem Alike.join (h : Alike s t) : Alike (s.join devices) (t.join devices) := by
  have hsettled := h.settle devices
  unfold Session.join
  generalize s.settle devices = u at hsettled ⊢
  generalize t.settle devices = v at hsettled ⊢
  simp only
  rw [show v.deadline? = u.deadline? from hsettled.field Session.deadline?]
  split
  · next deadline _ =>
    have hlater := hsettled.map (fun u => { u with clock := max u.clock deadline }) fun _ => rfl
    exact hlater.noticeTime.settle devices
  · exact hsettled

end Undisturbed

end Session

end DvbReceiver
