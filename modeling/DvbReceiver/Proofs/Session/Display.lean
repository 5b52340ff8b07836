import DvbReceiver.Proofs.Session.Continuing
import DvbReceiver.Proofs.Session.Requests

/-!
# What is shown and what is lent out

The application sees a phase and a channel; the demultiplexer and the player know which filter and
which streams they have lent out. These agree at every moment between the steps of a session,
whatever fails and whatever interrupts it (`displays_of_reachable`): the streams are those of the
channel that is shown, and the filter is the one of the phase.

`Loans` is what somebody who sees only the calls of a session can tell, like `Ledger`, but with
what was asked for.
-/

namespace DvbReceiver

open Journal

/-- What is lent out, as the calls tell it, and what it was asked for. -/
structure Loans where
  /-- The filters, each with its PID and its table id. -/
  filters : List (FilterHandle × Nat × Nat) := []
  /-- The video streams, each with its PID. -/
  videos : List (StreamHandle × Nat) := []
  audios : List (StreamHandle × Nat) := []

namespace Loans

/-- The loans after one more event. A stream that is removed is taken for a video stream if there
is one with its name. -/
def note (loans : Loans) : Event → Loans
  | .setFilter pid tableId (.ok handle) =>
    { loans with filters := (handle, pid, tableId) :: loans.filters }
  | .freeFilter handle => { loans with filters := loans.filters.eraseP (·.1 = handle) }
  | .createStream pid codec (.ok handle) =>
    if codec.isVideo then { loans with videos := (handle, pid) :: loans.videos }
    else { loans with audios := (handle, pid) :: loans.audios }
  | .removeStream handle =>
    if loans.videos.any (·.1 = handle) then
      { loans with videos := loans.videos.eraseP (·.1 = handle) }
    else { loans with audios := loans.audios.eraseP (·.1 = handle) }
  | _ => loans

/-- The loans after a list of events. -/
def after (events : List Event) : Loans := events.foldl note {}

/-- The loans of somebody who knows what is held and what it was asked for. -/
def ofHeld (held : Holdings) (aim : Nat × Nat) (video audio : Nat) : Loans where
  filters := held.filter.toList.map (·, aim)
  videos := held.video.toList.map (·, video)
  audios := held.audio.toList.map (·, audio)

theorem after_append (events more : List Event) :
    after (events ++ more) = more.foldl note (after events) := List.foldl_append

/-- What a thing that may be held was asked for. -/
theorem map_snd_toList {α β : Type} (held : Option α) (aim : β) :
    (held.toList.map (·, aim)).map Prod.snd = (held.map fun _ => aim).toList := by
  cases held <;> rfl

variable {held : Holdings} {aim : Nat × Nat} {video audio : Nat}

theorem foldl_filterRelease (held : Holdings) (aim : Nat × Nat) (video audio : Nat) :
    held.filterRelease.foldl note (ofHeld held aim video audio) =
      ofHeld { held with filter := none } aim video audio := by
  rcases held with ⟨_ | handle, _, _, _, _⟩ <;> simp [Holdings.filterRelease, ofHeld, note]

theorem foldl_videoRelease (held : Holdings) (aim : Nat × Nat) (video audio : Nat) :
    held.videoRelease.foldl note (ofHeld held aim video audio) =
      ofHeld { held with video := none } aim video audio := by
  rcases held with ⟨_, _ | handle, _, _, _⟩ <;> simp [Holdings.videoRelease, ofHeld, note]

/-- Once no video stream is held, a stream that is removed is the audio stream. -/
theorem foldl_audioRelease (hvideo : held.video = none) (aim : Nat × Nat) (video audio : Nat) :
    held.audioRelease.foldl note (ofHeld held aim video audio) =
      ofHeld { held with audio := none } aim video audio := by
  rcases held with ⟨_, _, _ | handle, _, _⟩
  · simp [Holdings.audioRelease, ofHeld]
  · obtain rfl : _ = none := hvideo
    simp [Holdings.audioRelease, ofHeld, note]

/-- When all is given back, nothing is lent out. -/
theorem foldl_releases (held : Holdings) (aim : Nat × Nat) (video audio : Nat) :
    held.releases.foldl note (ofHeld held aim video audio) = {} := by
  have hfilter := foldl_filterRelease held aim video audio
  have hvideo := foldl_videoRelease { held with filter := none } aim video audio
  have haudio : ∀ rest : Holdings, rest = { held with filter := none, video := none } →
      rest.audioRelease.foldl note (ofHeld rest aim video audio) =
        ofHeld { rest with audio := none } aim video audio := by
    rintro rest rfl
    exact foldl_audioRelease rfl aim video audio
  have hsource : ∀ loans, held.sourceRelease.foldl note loans = loans := by
    intro loans
    unfold Holdings.sourceRelease
    split <;> rfl
  have htuner : ∀ loans, held.tunerRelease.foldl note loans = loans := by
    intro loans
    unfold Holdings.tunerRelease
    split <;> rfl
  rw [Holdings.releases, List.foldl_append, List.foldl_append, List.foldl_append,
    List.foldl_append, hfilter, htuner, hsource]
  rw [show held.videoRelease = { held with filter := none }.videoRelease from rfl, hvideo]
  rw [show held.audioRelease = { held with filter := none, video := none }.audioRelease from rfl,
    haudio _ rfl]
  rfl

end Loans

/-- The channel that was bound. -/
def Event.bound? : Event → Option ChannelInfo
  | channelBound channel => some channel
  | _ => none

/-- The channel that was bound last. -/
def lastBound? (events : List Event) : Option ChannelInfo :=
  (events.filterMap Event.bound?).getLast?

theorem lastBound?_isSome {events : List Event} :
    (lastBound? events).isSome ↔ ∃ channel, .channelBound channel ∈ events := by
  rw [lastBound?, List.getLast?_isSome]
  constructor
  · intro hne
    obtain ⟨channel, hmem⟩ := List.exists_mem_of_ne_nil _ hne
    obtain ⟨event, hmem, hbound⟩ := List.mem_filterMap.1 hmem
    cases event <;> cases hbound
    exact ⟨channel, hmem⟩
  · exact fun ⟨channel, hmem⟩ => List.ne_nil_of_mem (List.mem_filterMap.2 ⟨_, hmem, rfl⟩)

theorem lastBound?_append {events more : List Event} (h : ∀ event ∈ more, event.bound? = none) :
    lastBound? (events ++ more) = lastBound? events := by
  rw [lastBound?, List.filterMap_append, List.filterMap_eq_nil_iff.2 h, List.append_nil, lastBound?]

theorem lastBound?_concat (events : List Event) (channel : ChannelInfo) :
    lastBound? (events ++ [.channelBound channel]) = some channel := by
  simp [lastBound?, Event.bound?]

/-- The filters that a phase wants, by PID and table id, when the services are those of the PAT and
one of them is selected. -/
def Phase.Wants (services : List Pat.Service) (index : Nat) (aims : List (Nat × Nat)) :
    Phase → Prop
  | awaitingPat => aims = [(0x0000, 0x00)]
  | awaitingPmt | streamsBound =>
    ∃ service, services[index]? = some service ∧ aims = [(service.pid, 0x02)]
  | awaitingTdt => aims = [(0x0014, 0x70)]
  | awaitingTot => aims = [(0x0014, 0x73)]
  | idle | tunerLocking | timeResolved | tornDown => aims = []

theorem Event.bound?_of_binds {event : Event} (h : event.binds = false) : event.bound? = none := by
  cases event <;> first | rfl | cases h

namespace Situation

variable {x y z : Situation} {loans : Loans} {aim : Nat × Nat} {video audio : Nat}

/-- The calls have left these loans, and the channel that is shown is the last one bound. -/
structure Lends (x : Situation) (loans : Loans) : Prop where
  loans : Loans.after (events x.deeds) = loans
  channel : x.channel = lastBound? (events x.deeds)

/-- The streams that are held are those of the channel that is shown. -/
structure Shows (x : Situation) (aim : Nat × Nat) (video audio : Nat) : Prop where
  lends : x.Lends (.ofHeld x.held aim video audio)
  video : x.channel.bind (·.videoPid) = x.held.video.map fun _ => video
  audio : x.channel.bind (·.audioPid) = x.held.audio.map fun _ => audio

/-- What is shown agrees with what is lent out. -/
inductive Displayed (x : Situation) : Prop
  | live {aim : Nat × Nat} {video audio : Nat} (hshows : x.Shows aim video audio)
    (hwants : x.phase.Wants x.services x.index (x.held.filter.map fun _ => aim).toList)
    (hphase : x.phase ≠ .tornDown) (hprogress : ∀ outcome, x.progress ≠ .finished outcome)
  | closed {outcome : Outcome} (hprogress : x.progress = .finished outcome)
    (hphase : x.phase = .tornDown) (hchannel : x.channel = none)
    (hloans : Loans.after (events x.deeds) = {})

/-- Calls change the loans one after another. -/
theorem Lends.append {calls : List Event} (h : x.Lends loans)
    (hcalls : ∀ event ∈ calls, event.bound? = none) (hchannel : y.channel = x.channel)
    (hevents : events y.deeds = events x.deeds ++ calls) :
    y.Lends (calls.foldl Loans.note loans) where
  loans := by rw [hevents, Loans.after_append, h.loans]
  channel := by rw [hevents, lastBound?_append hcalls, hchannel, h.channel]

theorem events_make (x : Situation) (calls : List Event) (held : Holdings) :
    events (x.make calls held).deeds = events x.deeds ++ calls := by
  rw [make, events_append]
  simp [events, Entry.event?, List.filterMap_map, Function.comp_def]

theorem Lends.make {calls : List Event} {held : Holdings} (h : x.Lends loans)
    (hcalls : ∀ event ∈ calls, event.bound? = none) :
    (x.make calls held).Lends (calls.foldl Loans.note loans) :=
  h.append hcalls rfl (events_make x calls held)

theorem events_finish (x : Situation) (outcome : Outcome) :
    events (x.finish outcome).deeds = events x.deeds ++ x.held.releases := by
  have hended : events (.ended outcome :: x.held.releases.map .event) = x.held.releases := by
    simp [events, Entry.event?, List.filterMap_map, Function.comp_def, List.filterMap_cons]
  rw [finish, events_append, events_append, hended, events_singleton]
  simp [Entry.event?]

/-- The end of a session. -/
theorem Lends.displayed_finish (h : x.Lends (.ofHeld x.held aim video audio)) (outcome : Outcome) :
    (x.finish outcome).Displayed := by
  refine .closed rfl rfl rfl ?_
  rw [events_finish, Loans.after_append, h.loans, Loans.foldl_releases]

/-- A call that fails lends nothing, and is the end. -/
theorem Lends.tries {α : Type} {call : Except DeviceError α → Event}
    {go : α → Situation → Situation → Prop} (h : x.Lends (.ofHeld x.held aim video audio))
    (hcall : ∀ result, (call result).bound? = none)
    (herror : ∀ error loans, Loans.note loans (call (.error error)) = loans)
    (hgo : ∀ value, (x.note (.event (call (.ok value)))).Lends
        ((Loans.ofHeld x.held aim video audio).note (call (.ok value))) →
      go value (x.note (.event (call (.ok value)))) z → z.Displayed)
    (htries : x.Tries call go z) : z.Displayed := by
  have hnoted : ∀ result, (x.note (.event (call result))).Lends
      ((Loans.ofHeld x.held aim video audio).note (call result)) := fun result =>
    h.append (List.forall_mem_singleton.2 (hcall result)) rfl (events_make x [call result] x.held)
  cases htries with
  | succeeds value hnext => exact hgo value (hnoted _) hnext
  | fails error =>
    have hfailed := hnoted (.error error)
    rw [herror] at hfailed
    exact hfailed.displayed_finish _

theorem Lends.freeFilter (h : x.Lends (.ofHeld x.held aim video audio)) :
    x.freeFilter.Lends (.ofHeld x.freeFilter.held aim video audio) := by
  have hfreed := h.append (y := x.freeFilter)
    (fun _ hmem => Event.bound?_of_binds (Holdings.binds_of_mem_filterRelease hmem)) rfl
    (events_make ..)
  rwa [Loans.foldl_filterRelease] at hfreed

theorem Lends.removeVideo (h : x.Lends (.ofHeld x.held aim video audio)) :
    x.removeVideo.Lends (.ofHeld x.removeVideo.held aim video audio) := by
  have hcalls : ∀ event ∈ x.held.videoRelease, event.bound? = none := by
    intro event hmem
    obtain ⟨handle, -, rfl⟩ := List.mem_map.1 hmem
    rfl
  have hremoved := h.append (y := x.removeVideo) hcalls rfl (events_make ..)
  rwa [Loans.foldl_videoRelease] at hremoved

theorem Lends.removeAudio (h : x.Lends (.ofHeld x.held aim video audio))
    (hvideo : x.held.video = none) :
    x.removeAudio.Lends (.ofHeld x.removeAudio.held aim video audio) := by
  have hcalls : ∀ event ∈ x.held.audioRelease, event.bound? = none := by
    intro event hmem
    obtain ⟨handle, -, rfl⟩ := List.mem_map.1 hmem
    rfl
  have hremoved := h.append (y := x.removeAudio) hcalls rfl (events_make ..)
  rwa [Loans.foldl_audioRelease hvideo] at hremoved

theorem Shows.freeFilter (h : x.Shows aim video audio) : x.freeFilter.Shows aim video audio :=
  ⟨h.lends.freeFilter, h.video, h.audio⟩

/-- What is noted without a call changes nothing. -/
theorem Shows.of_events (h : x.Shows aim video audio) (hevents : events y.deeds = events x.deeds)
    (hheld : y.held = x.held) (hchannel : y.channel = x.channel) : y.Shows aim video audio where
  lends := by
    have hlends := h.lends.append (List.forall_mem_nil _) hchannel
      (hevents.trans (List.append_nil _).symm)
    rwa [← hheld] at hlends
  video := by rw [hchannel, hheld, h.video]
  audio := by rw [hchannel, hheld, h.audio]

theorem Shows.enter (h : x.Shows aim video audio) (phase : Phase) :
    (x.enter phase).Shows aim video audio :=
  h.of_events (by simp [Situation.enter, note, Entry.event?]) rfl rfl

theorem Shows.seeks {pid : Nat} {kind : TableKind} {goal : Goal} (hseeks : x.Seeks pid kind goal z)
    (h : x.Shows aim video audio) (hphase : x.phase ≠ .tornDown)
    (hwants : x.phase.Wants x.services x.index [(pid, kind.tableId)]) : z.Displayed := by
  refine h.freeFilter.lends.tries (fun _ => rfl) (fun _ _ => rfl) ?_ hseeks
  rintro handle hlends rfl
  exact @Displayed.live _ (pid, kind.tableId) _ _
    ⟨⟨hlends.loans, hlends.channel⟩, h.video, h.audio⟩ hwants hphase (by rintro _ ⟨⟩)

theorem Shows.enter_seeks {pid : Nat} {kind : TableKind} {goal : Goal} {phase : Phase}
    (h : x.Shows aim video audio) (hseeks : (x.enter phase).Seeks pid kind goal z)
    (hphase : phase ≠ .tornDown) (hwants : phase.Wants x.services x.index [(pid, kind.tableId)]) :
    z.Displayed :=
  (h.enter phase).seeks hseeks hphase hwants

theorem Shows.begins {tuning : Tuning} (h : x.Shows aim video audio)
    (hfilter : x.held.filter = none) (hbegins : x.Begins tuning z) : z.Displayed := by
  have hentered := h.enter .tunerLocking
  refine hentered.lends.tries (fun _ => rfl) (fun _ _ => rfl) ?_ hbegins
  rintro value hlends rfl
  refine @Displayed.live _ aim _ _ ⟨⟨hlends.loans, hlends.channel⟩, h.video, h.audio⟩ ?_
    (by rintro ⟨⟩) (by rintro _ ⟨⟩)
  simp [await, hold, note, Situation.enter, Phase.Wants, hfilter]

theorem Shows.findsPat (h : x.Shows aim video audio) (hfinds : x.FindsPat z) : z.Displayed := by
  have hentered := h.enter .awaitingPat
  refine hentered.lends.tries (fun _ => rfl) (fun _ _ => rfl) ?_ hfinds
  intro value hlends hseeks
  exact Shows.seeks hseeks ⟨⟨hlends.loans, hlends.channel⟩, h.video, h.audio⟩ (by rintro ⟨⟩) rfl

theorem Shows.findsPmt (h : x.Shows aim video audio) (hfinds : x.FindsPmt z) : z.Displayed := by
  unfold FindsPmt at hfinds
  split at hfinds
  · rw [hfinds]
    exact h.lends.displayed_finish _
  · next service hservice =>
    exact h.enter_seeks hfinds (by rintro ⟨⟩) ⟨service, hservice, rfl⟩

theorem Shows.findsTdt (h : x.Shows aim video audio) (hfinds : x.FindsTdt z) : z.Displayed :=
  h.enter_seeks hfinds (by rintro ⟨⟩) rfl

theorem Shows.findsTot {utc : DateTime} (h : x.Shows aim video audio) (hfinds : x.FindsTot utc z) :
    z.Displayed :=
  h.enter_seeks hfinds (by rintro ⟨⟩) rfl

theorem Shows.resolveTime (h : x.Shows aim video audio) (time : ResolvedTime) :
    (x.resolveTime time).Displayed := by
  have hresolved : { x.freeFilter with timeIsResolved := true }.Shows aim video audio :=
    h.freeFilter.of_events rfl rfl rfl
  have hcall : ∀ event ∈ [Event.timeResolved time], event.bound? = none :=
    List.forall_mem_singleton.2 rfl
  have hnoted := (hresolved.enter .timeResolved).lends.append (y := x.resolveTime time) hcall rfl
    (events_append ..)
  have hshows : (x.resolveTime time).Shows aim video audio := ⟨hnoted, h.video, h.audio⟩
  exact .live hshows (by rfl) (by rintro ⟨⟩) (by rintro _ ⟨⟩)

/-- The streams that are held have just been created for the channel. -/
theorem Lends.announces {channel : ChannelInfo} (hannounces : x.Announces channel z)
    (h : x.Lends (.ofHeld x.held aim video audio))
    (hvideo : channel.videoPid = x.held.video.map fun _ => video)
    (haudio : channel.audioPid = x.held.audio.map fun _ => audio)
    (hwants : Phase.streamsBound.Wants x.services x.index (x.held.filter.map fun _ => aim).toList) :
    z.Displayed := by
  unfold Announces at hannounces
  extract_lets shown at hannounces
  have hevents : events shown.deeds = events x.deeds ++ [.channelBound channel] := by
    simp [shown, Situation.enter, note]
    rfl
  have hshows : shown.Shows aim video audio := by
    refine ⟨⟨?_, ?_⟩, hvideo, haudio⟩
    · rw [hevents, Loans.after_append, h.loans]
      rfl
    · rw [hevents, lastBound?_concat]
      rfl
  split at hannounces
  · rw [hannounces]
    exact .live (hshows.of_events rfl rfl rfl) hwants (by rintro ⟨⟩) (by rintro _ ⟨⟩)
  · exact hshows.findsTdt hannounces

/-- The loans after a stream has been asked for, when there may be nothing to ask for. -/
theorem Lends.creates {stream : Option Pmt.Stream}
    {go : Option (Nat × StreamHandle) → Situation → Situation → Prop}
    (lent : Option (Nat × StreamHandle) → Loans)
    (h : x.Lends (.ofHeld x.held aim video audio))
    (hnone : lent none = .ofHeld x.held aim video audio)
    (hsome : ∀ found codec handle, stream = some found → found.codec? = some codec →
      (Loans.ofHeld x.held aim video audio).note (.createStream found.pid codec (.ok handle)) =
        lent (some (found.pid, handle)))
    (hgo : ∀ found deeds, { x with deeds }.Lends (lent found) → go found { x with deeds } z →
      z.Displayed)
    (hcreates : x.Creates stream go z) : z.Displayed := by
  unfold Creates at hcreates
  split at hcreates
  · exact hgo none x.deeds (hnone ▸ h) hcreates
  · next pid codec hwanted =>
    obtain ⟨found, rfl, hcodec⟩ := Option.bind_eq_some_iff.1 hwanted
    obtain ⟨codec, hcodec, heq⟩ := Option.map_eq_some_iff.1 hcodec
    cases heq
    refine h.tries (fun _ => rfl) (fun _ _ => rfl) ?_ hcreates
    intro handle hlends hnext
    rw [hsome found codec handle rfl hcodec] at hlends
    exact hgo _ _ hlends hnext

/-- The PID of a stream that may have been created. -/
theorem map_fst_eq (found : Option (Nat × StreamHandle)) :
    found.map Prod.fst = (found.map Prod.snd).map fun _ => (found.map Prod.fst).getD 0 := by
  cases found <;> rfl

/-- The first audio stream of a PMT is created, and shown with the video stream. -/
theorem Lends.bindsAudio {pmt : Pmt} {videoPid : Option Nat} (hbinds : x.BindsAudio pmt videoPid z)
    (h : x.Lends (.ofHeld x.held aim video audio)) (haudio : x.held.audio = none)
    (hvideo : videoPid = x.held.video.map fun _ => video)
    (hwants : Phase.streamsBound.Wants x.services x.index (x.held.filter.map fun _ => aim).toList) :
    z.Displayed := by
  refine h.creates (fun found => .ofHeld { x.held with audio := found.map Prod.snd } aim video
    ((found.map Prod.fst).getD 0)) ?_ ?_ ?_ hbinds
  · simp [Loans.ofHeld, haudio]
  · intro found codec handle hfound hcodec
    simp [Loans.note, Loans.ofHeld, haudio, Pmt.isVideo_of_firstAudio? hfound hcodec]
  · intro found deeds hlends hannounces
    exact Lends.announces hannounces ⟨hlends.loans, hlends.channel⟩ hvideo (map_fst_eq found) hwants

/-- The first video stream of a PMT is created, and then its first audio stream. -/
theorem Lends.bindsVideo {pmt : Pmt} (h : x.Lends (.ofHeld x.held aim video audio))
    (hvideo : x.held.video = none) (haudio : x.held.audio = none)
    (hwants : Phase.streamsBound.Wants x.services x.index (x.held.filter.map fun _ => aim).toList)
    (hbinds : x.BindsVideo pmt z) : z.Displayed := by
  refine h.creates (fun found => .ofHeld { x.held with video := found.map Prod.snd } aim
    ((found.map Prod.fst).getD 0) audio) ?_ ?_ ?_ hbinds
  · simp [Loans.ofHeld, hvideo]
  · intro found codec handle hfound hcodec
    simp [Loans.note, Loans.ofHeld, hvideo, Pmt.isVideo_of_firstVideo? hfound hcodec]
  · intro found deeds hlends hbinds
    exact Lends.bindsAudio hbinds ⟨hlends.loans, hlends.channel⟩ haudio (map_fst_eq found) hwants

theorem Shows.bindsStreams {pmt : Pmt} (h : x.Shows aim video audio)
    (hwants : Phase.streamsBound.Wants x.services x.index (x.held.filter.map fun _ => aim).toList)
    (hbinds : x.BindsStreams pmt z) : z.Displayed :=
  (h.lends.removeVideo.removeAudio rfl).bindsVideo rfl rfl hwants hbinds

/-- A session that is not over shows what it has lent out. -/
theorem Displayed.shows (h : x.Displayed) (hlive : ∀ outcome, x.progress ≠ .finished outcome) :
    ∃ aim video audio, x.Shows aim video audio ∧
      x.phase.Wants x.services x.index (x.held.filter.map fun _ => aim).toList ∧
      x.phase ≠ .tornDown := by
  cases h with
  | live hshows hwants hphase => exact ⟨_, _, _, hshows, hwants, hphase⟩
  | closed hprogress => exact absurd hprogress (hlive _)

theorem Displayed.idle (h : x.Displayed) (pause alarm : Nat) (levels : List Nat) :
    (x.idle pause alarm levels).Displayed := by
  have hevents : events (x.idle pause alarm levels).deeds =
      events x.deeds ++ levels.map .volumeChanged := by
    rw [Situation.idle, events_append]
    simp [events, Entry.event?, List.filterMap_map, Function.comp_def]
  have hloans : ∀ loans, (levels.map Event.volumeChanged).foldl Loans.note loans = loans := by
    intro loans
    rw [List.foldl_map]
    exact List.foldl_fixed' (fun _ => rfl) levels
  cases h with
  | live hshows hwants hphase hprogress =>
    have hlends := hshows.lends.append (y := x.idle pause alarm levels)
      (List.forall_mem_map.2 fun _ _ => rfl) rfl hevents
    rw [hloans] at hlends
    exact .live ⟨hlends, hshows.video, hshows.audio⟩ hwants hphase hprogress
  | closed hprogress hphase hchannel hlent =>
    refine .closed hprogress hphase hchannel ?_
    rw [hevents, Loans.after_append, hloans, hlent]

end Situation

namespace Session

variable {σ : Type} (devices : Devices σ) {s t : Session σ} {config : Config} {aim : Nat × Nat}
  {video audio : Nat}

/-! ## Steps -/

theorem shows_take (h : s.situation.Shows aim video audio) (signal : Signal) (rest : List Signal) :
    (s.take signal rest).situation.Shows aim video audio := by
  refine h.of_events ?_ rfl rfl
  rw [situation_take, Situation.note, events_append]
  exact List.append_nil _

theorem displayed_finish (hlive : s.outcome? = none) (h : s.situation.Shows aim video audio)
    (outcome : Outcome) : (s.finish devices outcome).situation.Displayed := by
  rw [situation_finish devices hlive]
  exact h.lends.displayed_finish outcome

theorem displayed_findPmt (hlive : s.outcome? = none) (h : s.situation.Shows aim video audio) :
    (s.findPmt devices).situation.Displayed :=
  h.findsPmt (findsPmt_findPmt devices hlive)

theorem displayed_adoptPat (hlive : s.outcome? = none) (h : s.situation.Shows aim video audio)
    (pat : Pat) : (s.adoptPat devices pat).situation.Displayed := by
  by_cases hcount : Channel.first < pat.serviceCount
  · rw [adoptPat_eq devices hcount]
    exact displayed_findPmt devices (by exact hlive) (h.of_events rfl rfl rfl)
  · rw [adoptPat_of_le devices (Nat.not_lt.1 hcount)]
    exact displayed_finish devices hlive h _

/-- **A step keeps what is shown and what is lent out together.** -/
theorem displayed_of_step? (hs : s.Sound)
    (hphase : ∀ goal since, s.progress = .waiting goal since → goal.InPhase s.phase)
    (h : s.situation.Displayed) (hstep : s.step? devices = some t) : t.situation.Displayed := by
  have haction := action_of_step? devices hstep
  have hlive := haction.live devices
  have hnot : ∀ outcome, s.situation.progress ≠ .finished outcome := ne_finished_of_live hlive
  obtain ⟨aim, video, audio, hshows, hwants, hopen⟩ := h.shows hnot
  have htaken : ∀ signal rest, (s.take signal rest).outcome? = none := fun _ _ => hlive
  have htake := shows_take hshows
  cases haction with
  | begins hprogress =>
    have hheld : s.held = {} := by
      cases hs with
      | starting _ _ hheld => exact hheld
      | waiting _ hwaits =>
        obtain ⟨_, _, hwaiting, -⟩ := hwaits
        cases hprogress.symm.trans hwaiting
      | finished hover => cases hprogress.symm.trans hover.progress
    exact hshows.begins (congrArg Holdings.filter hheld) (begins_begin devices hlive)
  | expires => exact displayed_finish devices hlive hshows _
  | ends => exact displayed_finish devices (htaken _ _) (htake _ _) _
  | opens => exact (htake _ _).findsPat (findsPat_findPat devices (htaken _ _))
  | adopts => exact displayed_adoptPat devices (htaken _ _) (htake _ _) _
  | binds hprogress =>
    have hbinding : s.phase = .awaitingPmt := hphase _ _ hprogress
    refine (htake _ _).bindsStreams ?_ (bindsStreams_bindStreams devices (htaken _ _) _)
    rw [show s.situation.phase = .awaitingPmt from hbinding] at hwants
    exact hwants
  | dates => exact (htake _ _).findsTot (findsTot_findTot devices (htaken _ _) _)
  | resolves =>
    rw [situation_resolveTime devices (htaken _ _)]
    exact (htake _ _).resolveTime _
  | @follows _ _ rest request index =>
    exact displayed_findPmt devices (s := { s.take (.channelChange request) rest with index }) hlive
      ((htake (.channelChange request) rest).of_events rfl rfl rfl)
  | defers => exact .live (htake _ _) hwants hopen hnot
  | passes => exact .live (htake _ _) hwants hopen hnot

theorem displayed_of_reachable (h : Reachable devices config s) : s.situation.Displayed := by
  obtain ⟨hardware, hrun⟩ := h
  induction hrun with
  | refl =>
    refine @Situation.Displayed.live _ (0, 0) 0 0 ⟨⟨rfl, rfl⟩, rfl, rfl⟩ rfl ?_ ?_
    · rintro ⟨⟩
    · rintro _ ⟨⟩
  | tail hrun hmove ih =>
    have hreach : Reachable devices config _ := ⟨hardware, hrun⟩
    rcases hmove.step_or_idle with hstep | ⟨pause, alarm, levels, -, hidle⟩
    · refine displayed_of_step? devices (sound_of_reachable devices hreach) ?_ ih hstep
      exact fun goal since hprogress => (begun_of_reachable devices hreach hprogress).1
    · rw [hidle]
      exact ih.idle pause alarm levels

/-! ## Agreement -/

/-- What the application sees agrees with what the calls have left lent out. -/
structure Displays (config : Config) (s : Session σ) : Prop where
  /-- A channel is shown from the first one bound to the end. -/
  channel_isSome : s.channel.isSome ↔
    (∃ channel, .channelBound channel ∈ s.events) ∧ s.phase ≠ .tornDown
  /-- It is the last one bound. -/
  channel_eq : s.phase ≠ .tornDown → s.channel = lastBound? s.events
  /-- The video stream is the one of the channel. -/
  videos : (Loans.after s.events).videos.map Prod.snd = (s.channel.bind (·.videoPid)).toList
  /-- The audio stream is the one of the channel. -/
  audios : (Loans.after s.events).audios.map Prod.snd = (s.channel.bind (·.audioPid)).toList
  /-- The filter is the one of the phase. -/
  filters : s.phase.Wants s.services s.index ((Loans.after s.events).filters.map Prod.snd)
  /-- The services are those of the PAT that was taken up. -/
  services : s.phase = .awaitingPmt ∨ s.phase = .streamsBound → ∃ r pat t,
    Reachable devices config r ∧ Adopts devices r pat t ∧ Run devices t s ∧
      s.services = pat.services.items
  /-- All is given back when the session is over, and not before. -/
  tornDown : s.phase = .tornDown ↔ ∃ outcome, s.progress = .finished outcome
  /-- And then no channel is shown. -/
  dark : s.phase = .tornDown → s.channel = none

/-- A session that waits for a PMT or plays has taken up a PAT. -/
theorem exists_adopts_of_phase (h : Reachable devices config s)
    (hlive : ∀ outcome, s.progress ≠ .finished outcome)
    (hphase : s.phase = .awaitingPmt ∨ s.phase = .streamsBound) :
    ∃ r pat t, Reachable devices config r ∧ Adopts devices r pat t ∧ Run devices t s ∧
      s.services = pat.services.items := by
  rcases hprogress : s.progress with _ | ⟨goal, since⟩ | outcome
  · rw [phase_of_starting devices h hprogress] at hphase
    simp at hphase
  · refine exists_adopts_of_waiting devices h hprogress ?_
    have hgoal := (begun_of_reachable devices h hprogress).1
    rintro (rfl | rfl)
    · rw [show s.phase = .tunerLocking from hgoal] at hphase
      simp at hphase
    · rw [show s.phase = .awaitingPat from hgoal] at hphase
      simp at hphase
  · exact absurd hprogress (hlive outcome)

/-- **What is shown agrees with what is lent out**, between any two steps of a session. -/
theorem displays_of_reachable (h : Reachable devices config s) : Displays devices config s := by
  cases displayed_of_reachable devices h with
  | @live aim video audio hshows hwants hopen hlive =>
    have hopen : s.phase ≠ .tornDown := hopen
    have hchannel : s.channel = lastBound? s.events := events_situation s ▸ hshows.lends.channel
    have hloans : Loans.after s.events = .ofHeld s.held aim video audio :=
      events_situation s ▸ hshows.lends.loans
    have hvideo : s.channel.bind (·.videoPid) = s.held.video.map fun _ => video := hshows.video
    have haudio : s.channel.bind (·.audioPid) = s.held.audio.map fun _ => audio := hshows.audio
    refine ⟨?_, fun _ => hchannel, ?_, ?_, ?_, exists_adopts_of_phase devices h hlive, ?_, ?_⟩
    · rw [hchannel, lastBound?_isSome]
      exact (and_iff_left hopen).symm
    · rw [hloans, hvideo]
      exact Loans.map_snd_toList ..
    · rw [hloans, haudio]
      exact Loans.map_snd_toList ..
    · rw [hloans, Loans.ofHeld, Loans.map_snd_toList]
      exact hwants
    · exact iff_of_false hopen fun ⟨outcome, hover⟩ => hlive outcome hover
    · exact fun hover => absurd hover hopen
  | @closed outcome hover hphase hchannel hloans =>
    have hphase : s.phase = .tornDown := hphase
    have hchannel : s.channel = none := hchannel
    have hloans : Loans.after s.events = {} := events_situation s ▸ hloans
    refine ⟨?_, fun hopen => absurd hphase hopen, ?_, ?_, ?_, ?_, ?_, fun _ => hchannel⟩
    · simp [hchannel, hphase]
    · simp [hloans, hchannel]
    · simp [hloans, hchannel]
    · rw [hloans, hphase]
      rfl
    · simp [hphase]
    · exact iff_of_true hphase ⟨outcome, hover⟩

open Simulation Sample in
/-- While the PMT of another programme is waited for, the channel before is shown and played. -/
theorem displays_of_change :
    ∃ s : Session Hardware, Reachable Simulation.devices {} s ∧ s.phase = .awaitingPmt ∧
      s.queue = [] ∧ s.channel = some ⟨1, some 0x102, some 0x101⟩ ∧ s.index = 2 ∧
      Displays Simulation.devices {} s := by
  let played := (tuned.deliver (.arrived pmt₁)).takeSteps Simulation.devices 1
  let changed := (played.deliver (.request .up)).takeSteps Simulation.devices 1
  have hplayed : Run Simulation.devices tuned played :=
    .head (.deliver _ _) (run_takeSteps _ _ 1)
  have hchanged : Run Simulation.devices played changed :=
    .head (.deliver _ _) (run_takeSteps _ _ 1)
  have hreach := reachable_of_run (hplayed.trans hchanged)
  exact ⟨changed, hreach, by decide +kernel, by decide +kernel, by decide +kernel,
    by decide +kernel, displays_of_reachable Simulation.devices hreach⟩

end Session

end DvbReceiver
