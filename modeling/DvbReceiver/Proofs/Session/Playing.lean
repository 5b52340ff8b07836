import DvbReceiver.Proofs.Report
import DvbReceiver.Proofs.Session.Binding

/-!
# A session plays what the report shows

A player that creates every stream it is asked for is asked for the streams that the report of the
PMT shows, video before audio, and the channel that is announced then is that of the report
(`Session.playsShown`). `Session.Plays` says which events bind streams on the way from one session
to another; `Report.Shows` and `Report.ShowsChannel` read the report.
-/

namespace DvbReceiver

open Journal

/-- The player creates every stream that it is asked for. -/
def Devices.CreatesStreams {σ : Type} (devices : Devices σ) : Prop :=
  ∀ pid codec hardware, ∃ handle, (devices.createStream pid codec hardware).result = .ok handle

/-- The call that creates a stream, if there is one to create. -/
inductive Event.Creates : Option (Nat × Codec) → List Event → Prop
  | nothing : Creates none []
  | stream (pid : Nat) (codec : Codec) (handle : StreamHandle) :
    Creates (some (pid, codec)) [.createStream pid codec (.ok handle)]

theorem Event.Creates.filter_binds {wanted : Option (Nat × Codec)} {calls : List Event}
    (h : Creates wanted calls) : calls.filter Event.binds = calls := by
  cases h <;> rfl

/-- The document shows the programme number of a channel, and the PIDs that it has. -/
structure Report.ShowsChannel (document : Json) (channel : ChannelInfo) : Prop where
  programNumber : document.field? "program_number" = some (Json.nat channel.programNumber)
  audioPid : document.field? "audio_pid" = channel.audioPid.map Json.nat
  videoPid : document.field? "video_pid" = channel.videoPid.map Json.nat

theorem Report.showsChannel_pmt (pmt : Pmt) : ShowsChannel (Report.pmt pmt) pmt.channel where
  programNumber := field?_pmt_programNumber pmt
  audioPid := field?_pmt_audioPid pmt
  videoPid := field?_pmt_videoPid pmt

namespace Session

variable {σ : Type} {devices : Devices σ} {s t u : Session σ} {calls : List Event}

/-- The events of a session that bind streams. -/
def bindings (s : Session σ) : List Event := s.events.filter Event.binds

theorem Adds.bindings_eq (h : s.Adds Entry.Routine t) : t.bindings = s.bindings := by
  obtain ⟨entries, heq, hentries⟩ := h
  have hnone : (Journal.events entries).filter Event.binds = [] := by
    refine List.filter_eq_nil_iff.2 fun event hmem => ?_
    rw [(hentries _ (mem_events.1 hmem)).binds event rfl]
    exact Bool.false_ne_true
  have hevents : t.events = s.events ++ Journal.events entries := by
    rw [events, heq]
    exact events_append s.journal entries
  rw [bindings, hevents, List.filter_append, hnone, List.append_nil, bindings]

theorem Makes.channel_eq {held : Holdings} (h : s.Makes calls held t) :
    t.channel = s.channel := by
  obtain ⟨hardware, entries, -, rfl⟩ := h
  rfl

theorem Makes.bindings_eq {held : Holdings} (h : s.Makes calls held t)
    (hcalls : calls.filter Event.binds = calls) : t.bindings = s.bindings ++ calls := by
  rw [bindings, h.events_eq, List.filter_append, hcalls, bindings]

/-- From `s` to `t` streams are bound by these calls, and the channel is announced. It is then the
channel of `t`, unless `t` is over. -/
structure Plays (s : Session σ) (calls : List Event) (channel : ChannelInfo) (t : Session σ) :
    Prop where
  bindings : t.bindings = s.bindings ++ calls ++ [.channelBound channel]
  channel : t.outcome? = none → t.channel = some channel

theorem Plays.of_makes {held held' : Holdings} {more : List Event} {channel : ChannelInfo}
    (hmakes : s.Makes calls held t) (hcalls : calls.filter Event.binds = calls)
    (h : { t with held := held' }.Plays more channel u) : s.Plays (calls ++ more) channel u where
  bindings := by
    have hsame : { t with held := held' }.bindings = t.bindings := rfl
    rw [h.bindings, hsame, hmakes.bindings_eq hcalls, List.append_assoc s.bindings]
  channel := h.channel

theorem Plays.of_adds {channel : ChannelInfo} (hadds : s.Adds Entry.Routine t)
    (h : t.Plays calls channel u) : s.Plays calls channel u where
  bindings := by rw [h.bindings, hadds.bindings_eq]
  channel := h.channel

variable (devices) in
/-- Programming a filter binds nothing, and leaves the channel. -/
theorem quiet_awaitTable (hlive : s.outcome? = none) (pid : Nat) (kind : TableKind) (goal : Goal) :
    s.Adds Entry.Routine (s.awaitTable devices pid kind goal) ∧
      ((s.awaitTable devices pid kind goal).outcome? = none →
        (s.awaitTable devices pid kind goal).channel = s.channel) := by
  have hprogrammed := programmed_awaitTable devices hlive pid kind goal
  generalize s.awaitTable devices pid kind goal = next at hprogrammed ⊢
  cases hprogrammed with
  | waiting t hardware heard handle hfree hheard =>
    have hadds := hfree.adds fun _ => Holdings.binds_of_mem_filterRelease
    have hcalls := hheard.call (.setFilter pid kind.tableId (.ok handle))
    have hroutine := hcalls.routine (List.forall_mem_singleton.2 rfl)
    exact ⟨hadds.trans ⟨.event (.setFilter pid kind.tableId (.ok handle)) :: heard, rfl, hroutine⟩,
      fun _ => hfree.channel_eq⟩
  | failed t hardware heard error hfree hheard =>
    have hadds := hfree.adds fun _ => Holdings.binds_of_mem_filterRelease
    have hcalls := hheard.call (.setFilter pid kind.tableId (.error error))
    have hroutine := hcalls.routine (List.forall_mem_singleton.2 rfl)
    have hasked : s.Adds Entry.Routine ({ t with hardware, mark := t.registry.sequence }.hear
        (.event (.setFilter pid kind.tableId (.error error)) :: heard)) :=
      hadds.trans ⟨_, rfl, hroutine⟩
    have hasked' : ({ t with hardware, mark := t.registry.sequence }.hear
        (.event (.setFilter pid kind.tableId (.error error)) :: heard)).outcome? = none :=
      hfree.outcome?_eq.trans hlive
    refine ⟨hasked.trans (adds_finish devices hasked' _), fun hover => ?_⟩
    cases hover

variable (devices) in
theorem plays_announce (hlive : s.outcome? = none) (channel : ChannelInfo) :
    s.Plays [] channel (s.announce devices channel) := by
  unfold announce
  extract_lets entered shown
  have hshown : shown.bindings = s.bindings ++ [.channelBound channel] := by
    have hevents : shown.events = s.events ++ [.channelBound channel] := by
      simp [shown, entered, enter, record, events, List.filterMap_cons, Entry.event?]
    rw [bindings, hevents, List.filter_append, bindings]
    rfl
  -- Once the channel is shown, whatever comes next binds nothing.
  have hplays : ∀ next : Session σ, shown.Adds Entry.Routine next →
      (next.outcome? = none → next.channel = some channel) → s.Plays [] channel next := by
    intro next hadds hchannel
    exact ⟨by rw [hadds.bindings_eq, hshown, List.append_nil], hchannel⟩
  split
  · exact hplays _ (Adds.of_eq rfl) fun _ => rfl
  · obtain ⟨hadds, hchannel⟩ := quiet_awaitTable devices
      (s := shown.enter .awaitingTdt) hlive timePid .tdt .tdt
    exact hplays _ ((adds_enter shown _).trans hadds) hchannel

/-- A player that creates every stream is asked for the one that is wanted, if there is one. -/
theorem exists_createStream (hplayer : devices.CreatesStreams) (hlive : s.outcome? = none)
    {stream : Option Pmt.Stream} (hcodec : ∀ found, stream = some found → found.codec?.isSome) :
    ∃ created calls t, s.createStream devices stream = (.ok created, t) ∧
      Event.Creates (stream.bind (·.playable?)) calls ∧
      created.map Prod.fst = stream.map (·.pid) ∧ s.Makes calls s.held t := by
  rcases stream with _ | found
  · exact ⟨none, [], s, rfl, .nothing, rfl, Makes.nil rfl⟩
  · obtain ⟨codec, hcodec⟩ := Option.isSome_iff_exists.1 (hcodec found rfl)
    obtain ⟨handle, hhandle⟩ := hplayer found.pid codec s.hardware
    have hmakes := makes_absorb hlive (.createStream found.pid codec (.ok handle))
      (devices.createStream found.pid codec s.hardware)
    refine ⟨some (found.pid, handle), _, _, ?_, ?_, rfl, hmakes⟩
    · simp [createStream, hcodec, hhandle, Except.map]
    · rw [Option.bind_some, Pmt.Stream.playable?, hcodec, Option.map_some]
      exact .stream found.pid codec handle

theorem exists_plays_bindAudio (hplayer : devices.CreatesStreams) (hlive : s.outcome? = none)
    (pmt : Pmt) :
    ∃ calls, Event.Creates (pmt.firstAudio?.bind (·.playable?)) calls ∧
      s.Plays calls pmt.channel (s.bindAudio devices pmt pmt.channel.videoPid) := by
  obtain ⟨created, calls, t, heq, hcreates, hpid, hmakes⟩ :=
    exists_createStream hplayer hlive fun _ => Pmt.isSome_codec?_of_firstAudio?
  have hannounced := plays_announce devices
    (s := { t with held.audio := created.map Prod.snd }) (hmakes.outcome?_eq.trans hlive)
    pmt.channel
  have hplays := hannounced.of_makes hmakes hcreates.filter_binds
  rw [List.append_nil] at hplays
  refine ⟨calls, hcreates, ?_⟩
  unfold bindAudio
  rw [heq]
  dsimp only
  rw [hpid]
  exact hplays

theorem exists_plays_bindVideo (hplayer : devices.CreatesStreams) (hlive : s.outcome? = none)
    (pmt : Pmt) :
    ∃ videoCalls audioCalls, Event.Creates (pmt.firstVideo?.bind (·.playable?)) videoCalls ∧
      Event.Creates (pmt.firstAudio?.bind (·.playable?)) audioCalls ∧
      s.Plays (videoCalls ++ audioCalls) pmt.channel (s.bindVideo devices pmt) := by
  obtain ⟨created, videoCalls, t, heq, hvideo, hpid, hmakes⟩ :=
    exists_createStream hplayer hlive fun _ => Pmt.isSome_codec?_of_firstVideo?
  obtain ⟨audioCalls, haudio, hplays⟩ := exists_plays_bindAudio hplayer
    (s := { t with held.video := created.map Prod.snd }) (hmakes.outcome?_eq.trans hlive) pmt
  refine ⟨videoCalls, audioCalls, hvideo, haudio, ?_⟩
  unfold bindVideo
  rw [heq]
  dsimp only
  rw [hpid]
  exact hplays.of_makes hmakes hvideo.filter_binds

/-- The streams before are given back, which binds none. -/
theorem exists_plays_bindStreams (hplayer : devices.CreatesStreams) (hlive : s.outcome? = none)
    (pmt : Pmt) :
    ∃ videoCalls audioCalls, Event.Creates (pmt.firstVideo?.bind (·.playable?)) videoCalls ∧
      Event.Creates (pmt.firstAudio?.bind (·.playable?)) audioCalls ∧
      s.Plays (videoCalls ++ audioCalls) pmt.channel (s.bindStreams devices pmt) := by
  have hvideo := makes_removeVideo devices hlive
  have haudio := makes_removeAudio devices (hvideo.outcome?_eq.trans hlive)
  have hadds : s.Adds Entry.Routine (s.removeVideo devices |>.removeAudio devices) := by
    refine (hvideo.adds fun event hmem => ?_).trans (haudio.adds fun event hmem => ?_)
    · exact Holdings.binds_of_mem_releases
        (show event ∈ s.held.releases by simp [Holdings.releases, hmem])
    · exact Holdings.binds_of_mem_releases
        (show event ∈ (s.removeVideo devices).held.releases by simp [Holdings.releases, hmem])
  obtain ⟨videoCalls, audioCalls, hvideoCalls, haudioCalls, hplays⟩ :=
    exists_plays_bindVideo hplayer (haudio.outcome?_eq.trans (hvideo.outcome?_eq.trans hlive)) pmt
  exact ⟨videoCalls, audioCalls, hvideoCalls, haudioCalls, hplays.of_adds hadds⟩

/-- From `s` to `t` the player is asked for what a document shows of a PMT with these streams: the
first video stream, and then the first audio stream, with the codecs that are shown for them. The
channel that is announced is the one that the document shows, and there is a codec in it for the
streams that may be selected, and for no others. -/
structure PlaysShown (s : Session σ) (document : Json) (listed : List Pmt.Stream) (t : Session σ) :
    Prop where
  plays : ∃ video audio videoCalls audioCalls channel,
    Report.Shows document listed videoStreamTypes "video_pid" video ∧
    Report.Shows document listed audioStreamTypes "audio_pid" audio ∧
    Report.ShowsChannel document channel ∧
    Event.Creates video videoCalls ∧ Event.Creates audio audioCalls ∧
    s.Plays (videoCalls ++ audioCalls) channel t
  codec_iff : ∀ (index : Nat) (stream : Pmt.Stream), listed[index]? = some stream →
    ∃ entry, (Report.streamEntries document)[index]? = some entry ∧
      ((entry.field? "codec").isSome ↔
        stream.streamType ∈ videoStreamTypes ∨ stream.streamType ∈ audioStreamTypes)

/-- **A session plays what the report shows** if the player creates every stream. -/
theorem playsShown (hplayer : devices.CreatesStreams) (hlive : s.outcome? = none) (pmt : Pmt) :
    s.PlaysShown (Report.pmt pmt) pmt.streams.items (s.bindStreams devices pmt) := by
  obtain ⟨videoCalls, audioCalls, hvideo, haudio, hplays⟩ :=
    exists_plays_bindStreams hplayer hlive pmt
  refine ⟨?_, fun _ _ => Report.exists_streamEntry pmt⟩
  exact ⟨_, _, videoCalls, audioCalls, pmt.channel, Report.shows_video pmt, Report.shows_audio pmt,
    Report.showsChannel_pmt pmt, hvideo, haudio, hplays⟩

namespace Sample

/-- Hardware that does all that it is asked to, and counts the calls for filters and streams. -/
def obliging : Devices Nat where
  lock _ hardware := { result := .ok (), hardware }
  release hardware := { result := (), hardware }
  setFilter _ _ hardware := { result := .ok ⟨hardware⟩, hardware := hardware + 1 }
  freeFilter _ hardware := { result := (), hardware }
  openSource hardware := { result := .ok (), hardware }
  closeSource hardware := { result := (), hardware }
  createStream _ _ hardware := { result := .ok ⟨hardware⟩, hardware := hardware + 1 }
  removeStream _ hardware := { result := (), hardware }

/-- A PMT with a stream that is not played before audio, and audio before video. -/
def mixed : Pmt where
  header :=
    { tableId := 0x02
      sectionSyntaxIndicator := true
      sectionLength := 38
      tableIdExtension := 1
      versionNumber := 0
      currentNextIndicator := true
      sectionNumber := 0
      lastSectionNumber := 0
      pcrPid := 0x101
      programInfoLength := 0 }
  streams :=
    ⟨[⟨0x06, 0x105, 0⟩, ⟨0x04, 0x102, 0⟩, ⟨0x1b, 0x101, 0⟩, ⟨0x03, 0x104, 0⟩, ⟨0x02, 0x103, 0⟩],
      by decide⟩

end Sample

open Sample in
/-- Video comes before audio, though not in the PMT. The codecs are those that the report shows for
the two streams, which are neither its first nor its last. -/
theorem playsShown_mixed :
    obliging.CreatesStreams ∧ (start {} 0 : Session Nat).outcome? = none ∧
      (start {} 0).PlaysShown (Report.pmt mixed) mixed.streams.items
        ((start {} 0).bindStreams obliging mixed) ∧
      ((start {} 0).bindStreams obliging mixed).bindings =
        [.createStream 0x101 .h264Video (.ok ⟨0⟩),
          .createStream 0x102 .mpegAudio (.ok ⟨1⟩),
          .channelBound ⟨1, some 0x102, some 0x101⟩] ∧
      (Report.pmt mixed).field? "program_number" = some (.nat 1) ∧
      (Report.pmt mixed).field? "video_pid" = some (.nat 0x101) ∧
      (Report.pmt mixed).field? "audio_pid" = some (.nat 0x102) ∧
      (Report.streamEntries (Report.pmt mixed)).map (·.field? "pid") =
        [some (.nat 0x105), some (.nat 0x102), some (.nat 0x101), some (.nat 0x104),
          some (.nat 0x103)] ∧
      (Report.streamEntries (Report.pmt mixed)).map (·.field? "codec") =
        [none, some (.text "MpegAudio"), some (.text "H264Video"), some (.text "MpegAudio"),
          some (.text "Mpeg2Video")] := by
  have hplayer : obliging.CreatesStreams := fun _ _ hardware => ⟨⟨hardware⟩, rfl⟩
  have hlive : (start {} 0 : Session Nat).outcome? = none := rfl
  exact ⟨hplayer, hlive, playsShown hplayer hlive mixed, by decide +kernel, rfl, rfl, rfl, rfl, rfl⟩

end Session

end DvbReceiver
