import DvbReceiver.Proofs.Session.Calls

/-!
# What the calls lend and take back

`Ledger` is what somebody who sees only the calls of a session can tell: what is lent out at the
moment. `Orderly events held` says that every call in the list was in place when it was made and
that `held` is lent out after the last. It is built from single calls (`Transfer`).

* `Orderly.ledger_eq`: the ledger of an orderly list agrees with what is held;
* `Orderly.atMostOne`, `Orderly.lent`: never more than one thing of a sort is lent out, and what
  is given back is lent out at that moment;
* `Orderly.count_filter`, `Orderly.count_stream`, …: each thing is given back as often as it was
  lent, but for what is still held;
* `Orderly.releases`: a session may give back all that it holds, and then holds nothing.
-/

namespace DvbReceiver

/-- Whether the codec is for video. -/
def Codec.isVideo : Codec → Bool
  | mpeg2Video | h264Video => true
  | mpegAudio => false

namespace Event

/-- Whether the event is a call to the tuner, the demultiplexer or the player. -/
def isCall : Event → Bool
  | subscribedToSections | subscribedToLock | timeResolved _ | volumeChanged _ | channelBound _ =>
    false
  | _ => true

def isLock : Event → Bool
  | lock .. => true
  | _ => false

def isOpen : Event → Bool
  | openSource _ => true
  | _ => false

/-- The filter that the call returned. -/
def filterLent? : Event → Option FilterHandle
  | setFilter _ _ result => result.toOption
  | _ => none

/-- The stream that the call returned. -/
def streamLent? : Event → Option StreamHandle
  | createStream _ _ result => result.toOption
  | _ => none

/-- The player's source was opened. -/
def opens : Event → Bool
  | openSource result => result.isOk
  | _ => false

/-- The tuner was locked. -/
def engages : Event → Bool
  | lock _ result => result.isOk
  | _ => false

theorem isLock_of_isCall {event : Event} (h : event.isCall = false) : event.isLock = false := by
  cases event <;> first | rfl | cases h

theorem isOpen_of_isCall {event : Event} (h : event.isCall = false) : event.isOpen = false := by
  cases event <;> first | rfl | cases h

end Event

/-! ## The ledger -/

/-- What is lent out, as the calls tell it. -/
structure Ledger where
  filters : List FilterHandle := []
  videos : List StreamHandle := []
  audios : List StreamHandle := []
  sources : Nat := 0
  tuners : Nat := 0
  deriving DecidableEq

namespace Ledger

/-- The ledger after one more event. A stream that is removed is taken for a video stream if
there is one with its name. -/
def note (ledger : Ledger) : Event → Ledger
  | .lock _ (.ok ()) => { ledger with tuners := ledger.tuners + 1 }
  | .release => { ledger with tuners := ledger.tuners - 1 }
  | .setFilter _ _ (.ok handle) => { ledger with filters := handle :: ledger.filters }
  | .freeFilter handle => { ledger with filters := ledger.filters.erase handle }
  | .openSource (.ok ()) => { ledger with sources := ledger.sources + 1 }
  | .closeSource => { ledger with sources := ledger.sources - 1 }
  | .createStream _ codec (.ok handle) =>
    if codec.isVideo then { ledger with videos := handle :: ledger.videos }
    else { ledger with audios := handle :: ledger.audios }
  | .removeStream handle =>
    if handle ∈ ledger.videos then { ledger with videos := ledger.videos.erase handle }
    else { ledger with audios := ledger.audios.erase handle }
  | _ => ledger

/-- The ledger after a list of events. -/
def after (events : List Event) : Ledger := events.foldl note {}

theorem after_concat (events : List Event) (event : Event) :
    after (events ++ [event]) = (after events).note event :=
  List.foldl_append

/-- At most one thing of each sort is lent out. -/
structure AtMostOne (ledger : Ledger) : Prop where
  filters : ledger.filters.length ≤ 1
  videos : ledger.videos.length ≤ 1
  audios : ledger.audios.length ≤ 1
  sources : ledger.sources ≤ 1
  tuners : ledger.tuners ≤ 1

/-- If the event gives something back, then that is lent out. -/
def Lent (ledger : Ledger) : Event → Prop
  | .freeFilter handle => handle ∈ ledger.filters
  | .removeStream handle => handle ∈ ledger.videos ∨ handle ∈ ledger.audios
  | .closeSource => 0 < ledger.sources
  | .release => 0 < ledger.tuners
  | _ => True

/-- The calls that take back all that is lent out: filters, video streams, audio streams, the
source, the tuner. -/
def releases (ledger : Ledger) : List Event :=
  ledger.filters.map .freeFilter ++ ledger.videos.map .removeStream ++
    ledger.audios.map .removeStream ++ List.replicate ledger.sources .closeSource ++
    List.replicate ledger.tuners .release

/-- The ledger of somebody who knows what is held. -/
def ofHeld (held : Holdings) : Ledger where
  filters := held.filter.toList
  videos := held.video.toList
  audios := held.audio.toList
  sources := held.sourceOpen.toNat
  tuners := held.tunerEngaged.toNat

theorem atMostOne_ofHeld (held : Holdings) : (ofHeld held).AtMostOne where
  filters := Option.length_toList_le
  videos := Option.length_toList_le
  audios := Option.length_toList_le
  sources := Bool.toNat_le _
  tuners := Bool.toNat_le _

theorem releases_ofHeld (held : Holdings) : (ofHeld held).releases = held.releases := by
  obtain ⟨filter, video, audio, sourceOpen, tunerEngaged⟩ := held
  cases sourceOpen <;> cases tunerEngaged <;> rfl

end Ledger

/-! ## Orderly calls -/

/-- The event may follow the events `events` when `held` is lent out, and changes that to the
last argument. -/
inductive Transfer (events : List Event) : Holdings → Event → Holdings → Prop
  | lock {held : Holdings} (tuning : Tuning) (result : Except DeviceError Unit)
    (hfirst : ∀ event ∈ events, event.isLock = false) (hfree : held.tunerEngaged = false) :
    Transfer events held (.lock tuning result) { held with tunerEngaged := result.isOk }
  | release {held : Holdings} (h : held.tunerEngaged = true) :
    Transfer events held .release { held with tunerEngaged := false }
  | setFilter {held : Holdings} (pid tableId : Nat) (result : Except DeviceError FilterHandle)
    (hfree : held.filter = none) :
    Transfer events held (.setFilter pid tableId result) { held with filter := result.toOption }
  | freeFilter {held : Holdings} {handle : FilterHandle} (h : held.filter = some handle) :
    Transfer events held (.freeFilter handle) { held with filter := none }
  | openSource {held : Holdings} (result : Except DeviceError Unit)
    (hfirst : ∀ event ∈ events, event.isOpen = false) (hfree : held.sourceOpen = false) :
    Transfer events held (.openSource result) { held with sourceOpen := result.isOk }
  | closeSource {held : Holdings} (h : held.sourceOpen = true) :
    Transfer events held .closeSource { held with sourceOpen := false }
  | createVideo {held : Holdings} (pid : Nat) (codec : Codec)
    (result : Except DeviceError StreamHandle) (hcodec : codec.isVideo = true)
    (hfree : held.video = none) :
    Transfer events held (.createStream pid codec result) { held with video := result.toOption }
  | createAudio {held : Holdings} (pid : Nat) (codec : Codec)
    (result : Except DeviceError StreamHandle) (hcodec : codec.isVideo = false)
    (hfree : held.audio = none) :
    Transfer events held (.createStream pid codec result) { held with audio := result.toOption }
  | removeVideo {held : Holdings} {handle : StreamHandle} (h : held.video = some handle) :
    Transfer events held (.removeStream handle) { held with video := none }
  | removeAudio {held : Holdings} {handle : StreamHandle} (hvideo : held.video = none)
    (h : held.audio = some handle) :
    Transfer events held (.removeStream handle) { held with audio := none }
  | other {held : Holdings} {event : Event} (h : event.isCall = false) :
    Transfer events held event held

/-- Every call of the list is in place, and `held` is lent out at the end. -/
inductive Orderly : List Event → Holdings → Prop
  | nil : Orderly [] {}
  | concat {events : List Event} {held held' : Holdings} {event : Event} (h : Orderly events held)
    (ht : Transfer events held event held') : Orderly (events ++ [event]) held'

namespace Transfer

variable {events : List Event} {held held' : Holdings} {event : Event}

/-! A call that fails lends nothing. -/

theorem lock_error (tuning : Tuning) (error : DeviceError)
    (hfirst : ∀ event ∈ events, event.isLock = false) (hfree : held.tunerEngaged = false) :
    Transfer events held (.lock tuning (.error error)) held := by
  obtain ⟨_, _, _, _, _⟩ := held
  obtain rfl : _ = false := hfree
  exact .lock tuning (.error error) hfirst rfl

theorem setFilter_error (pid tableId : Nat) (error : DeviceError) (hfree : held.filter = none) :
    Transfer events held (.setFilter pid tableId (.error error)) held := by
  obtain ⟨_, _, _, _, _⟩ := held
  obtain rfl : _ = none := hfree
  exact .setFilter pid tableId (.error error) rfl

theorem openSource_error (error : DeviceError) (hfirst : ∀ event ∈ events, event.isOpen = false)
    (hfree : held.sourceOpen = false) :
    Transfer events held (.openSource (.error error)) held := by
  obtain ⟨_, _, _, _, _⟩ := held
  obtain rfl : _ = false := hfree
  exact .openSource (.error error) hfirst rfl

theorem createStream_error (pid : Nat) (codec : Codec) (error : DeviceError)
    (hvideo : held.video = none ∨ codec.isVideo = false) (haudio : held.audio = none) :
    Transfer events held (.createStream pid codec (.error error)) held := by
  obtain ⟨_, _, _, _, _⟩ := held
  obtain rfl : _ = none := haudio
  cases hcodec : codec.isVideo with
  | true =>
    obtain rfl : _ = none := hvideo.resolve_right (by simp [hcodec])
    exact .createVideo pid codec (.error error) hcodec rfl
  | false => exact .createAudio pid codec (.error error) hcodec rfl

theorem note_ofHeld (h : Transfer events held event held') :
    (Ledger.ofHeld held).note event = Ledger.ofHeld held' := by
  cases h with
  | lock tuning result _ hfree =>
    rcases result with _ | ⟨⟨⟩⟩ <;>
      simp [Ledger.note, Ledger.ofHeld, hfree, Except.isOk, Except.toBool]
  | release h => simp [Ledger.note, Ledger.ofHeld, h]
  | setFilter pid tableId result hfree =>
    rcases result with _ | _ <;> simp [Ledger.note, Ledger.ofHeld, hfree, Except.toOption]
  | freeFilter h => simp [Ledger.note, Ledger.ofHeld, h]
  | openSource result _ hfree =>
    rcases result with _ | ⟨⟨⟩⟩ <;>
      simp [Ledger.note, Ledger.ofHeld, hfree, Except.isOk, Except.toBool]
  | closeSource h => simp [Ledger.note, Ledger.ofHeld, h]
  | createVideo pid codec result hcodec hfree =>
    rcases result with _ | _ <;> simp [Ledger.note, Ledger.ofHeld, hcodec, hfree, Except.toOption]
  | createAudio pid codec result hcodec hfree =>
    rcases result with _ | _ <;> simp [Ledger.note, Ledger.ofHeld, hcodec, hfree, Except.toOption]
  | removeVideo h => simp [Ledger.note, Ledger.ofHeld, h]
  | removeAudio hvideo h => simp [Ledger.note, Ledger.ofHeld, hvideo, h]
  | other h => cases event <;> first | rfl | cases h

/-- What is given back was held. -/
theorem lent_ofHeld (h : Transfer events held event held') :
    (Ledger.ofHeld held).Lent event := by
  cases h with
  | release h => simp [Ledger.Lent, Ledger.ofHeld, h]
  | freeFilter h => simp [Ledger.Lent, Ledger.ofHeld, h]
  | closeSource h => simp [Ledger.Lent, Ledger.ofHeld, h]
  | removeVideo h => exact Or.inl (by simp [Ledger.ofHeld, h])
  | removeAudio hvideo h => exact Or.inr (by simp [Ledger.ofHeld, h])
  | other h => cases event <;> trivial
  | _ => trivial

theorem first_of_isLock (h : Transfer events held event held') (hlock : event.isLock = true) :
    ∀ earlier ∈ events, earlier.isLock = false := by
  cases h with
  | lock _ _ hfirst => exact hfirst
  | other h =>
    rw [Event.isLock_of_isCall h] at hlock
    cases hlock
  | _ => cases hlock

theorem first_of_isOpen (h : Transfer events held event held') (hopen : event.isOpen = true) :
    ∀ earlier ∈ events, earlier.isOpen = false := by
  cases h with
  | openSource _ hfirst => exact hfirst
  | other h =>
    rw [Event.isOpen_of_isCall h] at hopen
    cases hopen
  | _ => cases hopen

end Transfer

namespace Orderly

variable {events : List Event} {held : Holdings}

theorem ledger_eq (h : Orderly events held) : Ledger.after events = Ledger.ofHeld held := by
  induction h with
  | nil => rfl
  | concat _ ht ih => rw [Ledger.after_concat, ih, ht.note_ofHeld]

/-- The calls before and after one of an orderly list. -/
theorem exists_transfer (h : Orderly events held) {before : List Event} {event : Event}
    (hp : before ++ [event] <+: events) :
    ∃ held held', Orderly before held ∧ Transfer before held event held' := by
  induction h with
  | nil => simp at hp
  | concat h ht ih =>
    rcases List.prefix_concat_iff.1 hp with heq | hp
    · obtain ⟨rfl, hevent⟩ := List.append_inj' heq rfl
      exact ⟨_, _, h, List.singleton_inj.1 hevent ▸ ht⟩
    · exact ih hp

theorem of_prefix (h : Orderly events held) {before : List Event} (hp : before <+: events) :
    ∃ held, Orderly before held := by
  induction h with
  | nil => exact ⟨{}, List.prefix_nil.1 hp ▸ .nil⟩
  | concat h ht ih =>
    rcases List.prefix_concat_iff.1 hp with rfl | hp
    · exact ⟨_, h.concat ht⟩
    · exact ih hp

/-- **At most one thing of each sort is lent out**, at every moment. -/
theorem atMostOne (h : Orderly events held) {before : List Event} (hp : before <+: events) :
    (Ledger.after before).AtMostOne := by
  obtain ⟨held, h⟩ := h.of_prefix hp
  exact h.ledger_eq ▸ Ledger.atMostOne_ofHeld held

/-- **What is given back is lent out** at that moment. -/
theorem lent (h : Orderly events held) {before : List Event} {event : Event}
    (hp : before ++ [event] <+: events) : (Ledger.after before).Lent event := by
  obtain ⟨held, held', h, ht⟩ := h.exists_transfer hp
  exact h.ledger_eq ▸ ht.lent_ofHeld

/-- A sort of event that is always the first of its sort comes one time at most. -/
theorem countP_le_one {p : Event → Bool} (h : Orderly events held)
    (hfirst : ∀ {events held event held'}, Transfer events held event held' → p event = true →
      ∀ earlier ∈ events, p earlier = false) : events.countP p ≤ 1 := by
  induction h with
  | nil => exact Nat.zero_le _
  | @concat events _ _ event h ht ih =>
    rw [List.countP_append, List.countP_singleton]
    by_cases hp : p event = true
    · have hzero : events.countP p = 0 :=
        List.countP_eq_zero.2 fun earlier hmem => by simp [hfirst ht hp earlier hmem]
      rw [hzero, if_pos hp]
    · rw [if_neg hp]
      exact ih

theorem countP_isLock_le (h : Orderly events held) : events.countP Event.isLock ≤ 1 :=
  h.countP_le_one Transfer.first_of_isLock

theorem countP_isOpen_le (h : Orderly events held) : events.countP Event.isOpen ≤ 1 :=
  h.countP_le_one Transfer.first_of_isOpen

/-! ## Lending and giving back are in balance -/

/-- If every single call balances an amount of what is held, then so does the list. -/
theorem balance {lends takes : Event → Bool} (amount : Holdings → Nat) (hzero : amount {} = 0)
    (hcall : ∀ {events held event held'}, Transfer events held event held' →
      amount held' + (takes event).toNat = amount held + (lends event).toNat)
    (h : Orderly events held) :
    events.countP lends = events.countP takes + amount held := by
  induction h with
  | nil => simp [hzero]
  | concat _ ht ih =>
    have hone := hcall ht
    simp only [List.countP_append, List.countP_singleton]
    revert hone
    cases lends _ <;> cases takes _ <;> simp <;> omega

/-- A filter is freed as often as it was returned, but for the one that is held. -/
theorem count_filter (h : Orderly events held) (handle : FilterHandle) :
    events.countP (·.filterLent? = some handle) =
      events.countP (· = .freeFilter handle) + (decide (held.filter = some handle)).toNat := by
  refine balance (fun held => (decide (held.filter = some handle)).toNat) rfl
    (fun {_ _ event _} ht => ?_) h
  cases ht with
  | setFilter pid tableId result hfree =>
    by_cases hresult : result.toOption = some handle <;>
      simp [Event.filterLent?, hfree, hresult]
  | freeFilter h => simp [Event.filterLent?, h]
  | other h => cases event <;> first | rfl | cases h
  | _ => rfl

/-- A stream is removed as often as it was returned, but for those that are held. -/
theorem count_stream (h : Orderly events held) (handle : StreamHandle) :
    events.countP (·.streamLent? = some handle) =
      events.countP (· = .removeStream handle) +
        ((decide (held.video = some handle)).toNat +
          (decide (held.audio = some handle)).toNat) := by
  refine balance (fun held => (decide (held.video = some handle)).toNat +
    (decide (held.audio = some handle)).toNat) rfl (fun {_ _ event _} ht => ?_) h
  cases ht with
  | createVideo pid codec result _ hfree =>
    by_cases hresult : result.toOption = some handle <;>
      simp [Event.streamLent?, hfree, hresult, Nat.add_comm]
  | createAudio pid codec result _ hfree =>
    by_cases hresult : result.toOption = some handle <;>
      simp [Event.streamLent?, hfree, hresult]
  | removeVideo h => simp [Event.streamLent?, h]; omega
  | removeAudio hvideo h => simp [Event.streamLent?, hvideo, h]
  | other h => cases event <;> first | rfl | cases h
  | _ => rfl

/-- The source is closed if it was opened, unless it still is. -/
theorem count_source (h : Orderly events held) :
    events.countP Event.opens = events.countP (· = .closeSource) + held.sourceOpen.toNat := by
  refine balance (fun held => held.sourceOpen.toNat) rfl
    (fun {_ _ event _} ht => ?_) h
  cases ht with
  | openSource result _ hfree => simp [Event.opens, hfree]
  | closeSource h => simp [Event.opens, h]
  | other h => cases event <;> first | rfl | cases h
  | _ => rfl

/-- The tuner is released if it was locked, unless it still is. -/
theorem count_tuner (h : Orderly events held) :
    events.countP Event.engages = events.countP (· = .release) + held.tunerEngaged.toNat := by
  refine balance (fun held => held.tunerEngaged.toNat) rfl
    (fun {_ _ event _} ht => ?_) h
  cases ht with
  | lock tuning result _ hfree => simp [Event.engages, hfree]
  | release h => simp [Event.engages, h]
  | other h => cases event <;> first | rfl | cases h
  | _ => rfl

/-- Events that are no calls may follow at any time. -/
theorem append (h : Orderly events held) {more : List Event}
    (hmore : ∀ event ∈ more, event.isCall = false) : Orderly (events ++ more) held := by
  induction more using List.reverseRecOn with
  | nil => rwa [List.append_nil]
  | append_singleton more event ih =>
    rw [List.forall_mem_append, List.forall_mem_singleton] at hmore
    rw [← List.append_assoc]
    exact (ih hmore.1).concat (.other hmore.2)

/-! ## Giving back -/

theorem filterRelease (h : Orderly events held) :
    Orderly (events ++ held.filterRelease) { held with filter := none } := by
  rcases held with ⟨_ | handle, _, _, _, _⟩
  · simpa [Holdings.filterRelease] using h
  · exact h.concat (.freeFilter rfl)

theorem videoRelease (h : Orderly events held) :
    Orderly (events ++ held.videoRelease) { held with video := none } := by
  rcases held with ⟨_, _ | handle, _, _, _⟩
  · simpa [Holdings.videoRelease] using h
  · exact h.concat (.removeVideo rfl)

theorem audioRelease (h : Orderly events held) (hvideo : held.video = none) :
    Orderly (events ++ held.audioRelease) { held with audio := none } := by
  rcases held with ⟨_, _, _ | handle, _, _⟩
  · simpa [Holdings.audioRelease] using h
  · exact h.concat (.removeAudio hvideo rfl)

theorem sourceRelease (h : Orderly events held) :
    Orderly (events ++ held.sourceRelease) { held with sourceOpen := false } := by
  unfold Holdings.sourceRelease
  split
  · next hopen => exact h.concat (.closeSource hopen)
  · next hopen =>
    rw [← Bool.eq_false_iff.2 hopen]
    simpa using h

theorem tunerRelease (h : Orderly events held) :
    Orderly (events ++ held.tunerRelease) { held with tunerEngaged := false } := by
  unfold Holdings.tunerRelease
  split
  · next hengaged => exact h.concat (.release hengaged)
  · next hengaged =>
    rw [← Bool.eq_false_iff.2 hengaged]
    simpa using h

/-- **All that is held may be given back**, and then nothing is held. -/
theorem releases (h : Orderly events held) : Orderly (events ++ held.releases) {} := by
  have h' := h.filterRelease.videoRelease.audioRelease rfl |>.sourceRelease.tunerRelease
  simpa [Holdings.releases, Holdings.filterRelease, Holdings.videoRelease,
    Holdings.audioRelease, Holdings.sourceRelease, Holdings.tunerRelease] using h'

end Orderly

end DvbReceiver
