import DvbReceiver.Proofs.Session.Journal
import DvbReceiver.Session.Step

/-!
# What the calls of a session do

`Session.hear` adds entries to the journal and lets the registry and the queue follow.
`s.Makes events held t` says that `s` makes the calls `events`, whatever the devices answer and
whatever is delivered meanwhile, and is then `t`, with `held` in its hands: this sets two fields
and hears entries, and does nothing else. Calls are chained by `Makes.trans`.

* `makes_freeFilter`, `makes_removeVideo`, … are the calls that give back a single thing, and
  `exists_finish` is the end of a session, which gives back all of them in order;
* `created_createStream` is the call for a stream, which there may be no need for;
* `programmed_awaitTable` is the call for a filter, after which the session waits or is over.
-/

namespace DvbReceiver

open Journal

namespace Session

variable {σ α : Type} (devices : Devices σ) {s t u : Session σ}

/-- The session after it has taken in what the entries note. -/
def hear (s : Session σ) (entries : List Entry) : Session σ :=
  { s with
    registry := (tables entries).foldl Registry.store s.registry
    queue := s.queue ++ queued entries
    journal := s.journal ++ entries }

@[simp] theorem hear_nil (s : Session σ) : s.hear [] = s := by
  simp [hear, tables, queued]

theorem hear_hear (s : Session σ) (entries later : List Entry) :
    (s.hear entries).hear later = s.hear (entries ++ later) := by
  simp [hear, List.append_assoc]

/-- An entry that is neither a store nor an addition to the queue changes only the journal. -/
theorem record_eq_hear (s : Session σ) {entry : Entry} (htable : entry.table? = none)
    (hqueued : entry.queued? = none) : s.record entry = s.hear [entry] := by
  simp [record, hear, tables, queued, htable, hqueued]

theorem post_eq_hear (hlive : s.outcome? = none) (signal : Signal) :
    s.post signal = s.hear [.queued signal] := by
  simp [post, hlive, record, hear, tables, queued, Entry.table?, Entry.queued?,
    List.filterMap_cons]

/-! ## Deliveries -/

theorem exists_deliver (hlive : s.outcome? = none) (delivery : Delivery) :
    ∃ entries, Calls [] entries ∧ s.deliver delivery = s.hear entries := by
  cases delivery with
  | status status => exact ⟨_, .signal _ (by simp) .nil, post_eq_hear hlive _⟩
  | request request => exact ⟨_, .signal _ (by simp) .nil, post_eq_hear hlive _⟩
  | shutdown => exact ⟨_, .signal _ (by simp) .nil, post_eq_hear hlive _⟩
  | arrived bytes =>
    simp only [deliver, receive]
    split
    · next table hbytes =>
      refine ⟨_, .section bytes table hbytes .nil, (post_eq_hear (by exact hlive) _).trans ?_⟩
      simp [hear, record, tables, queued, Entry.table?, Entry.queued?, List.filterMap_cons]
    · exact ⟨[], .nil, (hear_nil s).symm⟩

theorem exists_foldl_deliver (hlive : s.outcome? = none) (deliveries : List Delivery) :
    ∃ entries, Calls [] entries ∧ deliveries.foldl deliver s = s.hear entries := by
  induction deliveries generalizing s with
  | nil => exact ⟨[], .nil, (hear_nil s).symm⟩
  | cons delivery deliveries ih =>
    obtain ⟨first, hfirst, heq⟩ := exists_deliver hlive delivery
    obtain ⟨rest, hrest, heq'⟩ := ih (s := s.hear first) hlive
    refine ⟨first ++ rest, hfirst.append hrest, ?_⟩
    rw [List.foldl_cons, heq, heq', hear_hear]

/-! ## Making calls -/

/-- `s` makes the calls and is then `t`, with `held` in its hands. -/
def Makes (s : Session σ) (events : List Event) (held : Holdings) (t : Session σ) : Prop :=
  ∃ hardware entries, Calls events entries ∧ t = { s with hardware, held }.hear entries

namespace Makes

variable {events events' : List Event} {held held' : Holdings}

theorem nil (h : held = s.held) : s.Makes [] held s :=
  ⟨s.hardware, [], .nil, by rw [h, hear_nil]⟩

theorem trans (h : s.Makes events held t) (h' : t.Makes events' held' u) :
    s.Makes (events ++ events') held' u := by
  obtain ⟨hardware, entries, hcalls, rfl⟩ := h
  obtain ⟨hardware', entries', hcalls', rfl⟩ := h'
  exact ⟨hardware', entries ++ entries', hcalls.append hcalls',
    hear_hear { s with hardware := hardware', held := held' } entries entries'⟩

theorem held_eq (h : s.Makes events held t) : t.held = held := by
  obtain ⟨hardware, entries, -, rfl⟩ := h
  rfl

theorem outcome?_eq (h : s.Makes events held t) : t.outcome? = s.outcome? := by
  obtain ⟨hardware, entries, -, rfl⟩ := h
  rfl

theorem services_eq (h : s.Makes events held t) : t.services = s.services := by
  obtain ⟨hardware, entries, -, rfl⟩ := h
  rfl

theorem index_eq (h : s.Makes events held t) : t.index = s.index := by
  obtain ⟨hardware, entries, -, rfl⟩ := h
  rfl

theorem events_eq (h : s.Makes events held t) : t.events = s.events ++ events := by
  obtain ⟨hardware, entries, hcalls, rfl⟩ := h
  rw [← hcalls.events_eq]
  exact events_append s.journal entries

end Makes

theorem exists_absorb (hlive : s.outcome? = none) (event : Event) (reply : Reply σ α) :
    ∃ entries, Calls [] entries ∧
      s.absorb event reply =
        { s with hardware := reply.hardware }.hear (.event event :: entries) := by
  obtain ⟨entries, hentries, heq⟩ := exists_foldl_deliver
    (s := { s with hardware := reply.hardware }.hear [.event event]) hlive reply.delivered
  refine ⟨entries, hentries, ?_⟩
  rw [absorb, record_eq_hear _ rfl rfl, heq, hear_hear, List.singleton_append]

theorem makes_absorb (hlive : s.outcome? = none) (event : Event) (reply : Reply σ α) :
    s.Makes [event] s.held (s.absorb event reply) := by
  obtain ⟨entries, hentries, heq⟩ := exists_absorb hlive event reply
  exact ⟨reply.hardware, .event event :: entries, hentries.call event, heq⟩

end Session

/-! ## Giving back -/

namespace Holdings

/-- The call that gives back the filter, if there is one. -/
def filterRelease (held : Holdings) : List Event := held.filter.toList.map .freeFilter

def videoRelease (held : Holdings) : List Event := held.video.toList.map .removeStream

def audioRelease (held : Holdings) : List Event := held.audio.toList.map .removeStream

def sourceRelease (held : Holdings) : List Event := if held.sourceOpen then [.closeSource] else []

def tunerRelease (held : Holdings) : List Event := if held.tunerEngaged then [.release] else []

/-- The calls that give back everything, in order. -/
def releases (held : Holdings) : List Event :=
  held.filterRelease ++ held.videoRelease ++ held.audioRelease ++ held.sourceRelease ++
    held.tunerRelease

end Holdings

namespace Session

variable {σ : Type} (devices : Devices σ) {s : Session σ}

theorem makes_freeFilter (hlive : s.outcome? = none) :
    s.Makes s.held.filterRelease { s.held with filter := none } (s.freeFilter devices) := by
  unfold freeFilter
  split
  · next hfilter =>
    rw [Holdings.filterRelease, hfilter]
    exact Makes.nil (by rw [← hfilter])
  · next handle hfilter =>
    rw [Holdings.filterRelease, hfilter]
    exact makes_absorb (s := { s with held.filter := none }) hlive _ _

theorem makes_removeVideo (hlive : s.outcome? = none) :
    s.Makes s.held.videoRelease { s.held with video := none } (s.removeVideo devices) := by
  unfold removeVideo
  split
  · next hvideo =>
    rw [Holdings.videoRelease, hvideo]
    exact Makes.nil (by rw [← hvideo])
  · next handle hvideo =>
    rw [Holdings.videoRelease, hvideo]
    exact makes_absorb (s := { s with held.video := none }) hlive _ _

theorem makes_removeAudio (hlive : s.outcome? = none) :
    s.Makes s.held.audioRelease { s.held with audio := none } (s.removeAudio devices) := by
  unfold removeAudio
  split
  · next haudio =>
    rw [Holdings.audioRelease, haudio]
    exact Makes.nil (by rw [← haudio])
  · next handle haudio =>
    rw [Holdings.audioRelease, haudio]
    exact makes_absorb (s := { s with held.audio := none }) hlive _ _

theorem makes_closeSource (hlive : s.outcome? = none) :
    s.Makes s.held.sourceRelease { s.held with sourceOpen := false } (s.closeSource devices) := by
  unfold closeSource Holdings.sourceRelease
  split
  · exact makes_absorb (s := { s with held.sourceOpen := false }) hlive _ _
  · next hopen =>
    exact Makes.nil (by rw [← Bool.eq_false_iff.2 hopen])

theorem makes_releaseTuner (hlive : s.outcome? = none) :
    s.Makes s.held.tunerRelease { s.held with tunerEngaged := false }
      (s.releaseTuner devices) := by
  unfold releaseTuner Holdings.tunerRelease
  split
  · exact makes_absorb (s := { s with held.tunerEngaged := false }) hlive _ _
  · next hengaged =>
    exact Makes.nil (by rw [← Bool.eq_false_iff.2 hengaged])

/-- All that is held is given back, in order. -/
theorem makes_releases (hlive : s.outcome? = none) :
    s.Makes s.held.releases {}
      (s.freeFilter devices |>.removeVideo devices |>.removeAudio devices
        |>.closeSource devices |>.releaseTuner devices) := by
  have h₁ := makes_freeFilter devices hlive
  have h₂ := h₁.trans (makes_removeVideo devices (h₁.outcome?_eq.trans hlive))
  have h₃ := h₂.trans (makes_removeAudio devices (h₂.outcome?_eq.trans hlive))
  have h₄ := h₃.trans (makes_closeSource devices (h₃.outcome?_eq.trans hlive))
  have h₅ := h₄.trans (makes_releaseTuner devices (h₄.outcome?_eq.trans hlive))
  rw [h₄.held_eq, h₃.held_eq, h₂.held_eq, h₁.held_eq] at h₅
  exact h₅

/-- **The end of a session** gives back all that is held, in order, and forgets the rest. -/
theorem exists_finish (hlive : s.outcome? = none) (outcome : Outcome) :
    ∃ hardware entries, Calls s.held.releases entries ∧
      s.finish devices outcome =
        { s with
          hardware
          held := {}
          registry := ((tables entries).foldl Registry.store s.registry).clear
          channel := none
          phase := .tornDown
          progress := .finished outcome
          queue := []
          journal := s.journal ++ .ended outcome :: entries ++ [.entered .tornDown] } := by
  obtain ⟨hardware, entries, hcalls, heq⟩ :=
    makes_releases devices (s := s.record (.ended outcome)) hlive
  refine ⟨hardware, entries, hcalls, ?_⟩
  rw [finish, tearDown, heq]
  simp [hear, record, enter]

/-! ## Acquiring -/

/-- What comes of the request for a stream: there may be nothing to ask for. -/
inductive Created (stream : Option Pmt.Stream) :
    List Event → Except DeviceError (Option (Nat × StreamHandle)) → Prop
  | nothing (h : ∀ found, stream = some found → found.codec? = none) :
    Created stream [] (.ok none)
  | created (found : Pmt.Stream) (codec : Codec) (handle : StreamHandle)
    (hstream : stream = some found) (hcodec : found.codec? = some codec) :
    Created stream [.createStream found.pid codec (.ok handle)] (.ok (some (found.pid, handle)))
  | failed (found : Pmt.Stream) (codec : Codec) (error : DeviceError)
    (hstream : stream = some found) (hcodec : found.codec? = some codec) :
    Created stream [.createStream found.pid codec (.error error)] (.error error)

theorem created_createStream (hlive : s.outcome? = none) (stream : Option Pmt.Stream) :
    ∃ events result t, s.createStream devices stream = (result, t) ∧
      Created stream events result ∧ s.Makes events s.held t := by
  rcases stream with _ | found
  · exact ⟨[], .ok none, s, rfl, .nothing (fun _ h => by cases h), Makes.nil rfl⟩
  rcases hcodec : found.codec? with _ | codec
  · refine ⟨[], .ok none, s, by simp [createStream, hcodec], .nothing (fun _ h => ?_),
      Makes.nil rfl⟩
    rw [← Option.some.inj h, hcodec]
  generalize hreply : devices.createStream found.pid codec s.hardware = reply
  have hmakes := makes_absorb hlive (.createStream found.pid codec reply.result) reply
  have heq : s.createStream devices (some found) =
      (reply.result.map fun handle => some (found.pid, handle),
        s.absorb (.createStream found.pid codec reply.result) reply) := by
    simp [createStream, hcodec, hreply]
  rcases hresult : reply.result with error | handle <;> rw [hresult] at hmakes heq
  · exact ⟨_, _, _, heq, .failed found codec error rfl hcodec, hmakes⟩
  · exact ⟨_, _, _, heq, .created found codec handle rfl hcodec, hmakes⟩

/-- What comes of the request for a filter: the filter before is given back, and the session waits
for the tables of the new one, or is over. -/
inductive Programmed (s : Session σ) (pid : Nat) (kind : TableKind) (goal : Goal) :
    Session σ → Prop
  | waiting (t : Session σ) (hardware : σ) (heard : List Entry) (handle : FilterHandle)
    (hfree : s.Makes s.held.filterRelease { s.held with filter := none } t)
    (hheard : Calls [] heard) :
    Programmed s pid kind goal
      ({ { t with hardware, mark := t.registry.sequence }.hear
          (.event (.setFilter pid kind.tableId (.ok handle)) :: heard) with
        held.filter := some handle }.await goal)
  | failed (t : Session σ) (hardware : σ) (heard : List Entry) (error : DeviceError)
    (hfree : s.Makes s.held.filterRelease { s.held with filter := none } t)
    (hheard : Calls [] heard) :
    Programmed s pid kind goal
      (({ t with hardware, mark := t.registry.sequence }.hear
        (.event (.setFilter pid kind.tableId (.error error)) :: heard)).finish devices
          (.error (.device error)))

theorem programmed_awaitTable (hlive : s.outcome? = none) (pid : Nat) (kind : TableKind)
    (goal : Goal) : Programmed devices s pid kind goal (s.awaitTable devices pid kind goal) := by
  have hfree := makes_freeFilter devices hlive
  have htlive := hfree.outcome?_eq.trans hlive
  unfold awaitTable
  generalize s.freeFilter devices = t at hfree htlive ⊢
  extract_lets start marked reply asked
  obtain ⟨heard, hheard, heq⟩ := exists_absorb (s := marked) htlive
    (.setFilter pid kind.tableId reply.result) reply
  have hasked : asked = marked.absorb (.setFilter pid kind.tableId reply.result) reply := rfl
  rw [heq] at hasked
  clear_value asked
  subst hasked
  split
  · next error herror =>
    rw [herror]
    exact .failed t reply.hardware heard error hfree hheard
  · next handle hhandle =>
    rw [hhandle]
    exact .waiting t reply.hardware heard handle hfree hheard

end Session

end DvbReceiver
