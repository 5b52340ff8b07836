import DvbReceiver.Report

/-!
# What a report shows of a PMT

Reading the report of a PMT back: `Report.Shows` says that it shows no stream of some types, since
there is none, or the PID of the first, along with its codec. The streams that are selected are of
the types that the player has a codec for (`Codec.isSome_ofStreamType?_iff`), so none is shown
without.
-/

namespace DvbReceiver

namespace Json

/-- The value of a field, if there is one. -/
def field? : Json → String → Option Json
  | object fields, key => fields.lookup key
  | _, _ => none

/-- The items of an array. -/
def items : Json → List Json
  | array items => items
  | _ => []

end Json

/-- What the player is asked for to play a stream. -/
def Pmt.Stream.playable? (stream : Pmt.Stream) : Option (Nat × Codec) :=
  stream.codec?.map (stream.pid, ·)

/-- **The player has a codec** for the types that are selected, and for no others. -/
theorem Codec.isSome_ofStreamType?_iff (streamType : Nat) :
    (ofStreamType? streamType).isSome ↔
      streamType ∈ videoStreamTypes ∨ streamType ∈ audioStreamTypes := by
  unfold ofStreamType? videoStreamTypes audioStreamTypes
  split <;> simp_all

/-- How a report spells a codec. No two codecs are spelled the same. -/
inductive Codec.SpelledAs : Codec → String → Prop
  | mpeg2Video : SpelledAs .mpeg2Video "Mpeg2Video"
  | h264Video : SpelledAs .h264Video "H264Video"
  | mpegAudio : SpelledAs .mpegAudio "MpegAudio"

theorem Codec.spelledAs_name (codec : Codec) : codec.SpelledAs codec.name := by
  cases codec with
  | mpeg2Video => exact .mpeg2Video
  | h264Video => exact .h264Video
  | mpegAudio => exact .mpegAudio

namespace Report

open Json

/-- The entries for the streams in the report of a PMT. -/
def streamEntries (document : Json) : List Json :=
  ((document.field? "streams").map items).getD []

/-- What the report of a PMT with these streams shows of those of some types: nothing under the key
if there are none, else the PID of the first, in whose entry its codec is spelled out. -/
inductive Shows (document : Json) (listed : List Pmt.Stream) (types : List Nat) (key : String) :
    Option (Nat × Codec) → Prop
  | nothing (hkey : document.field? key = none)
    (hnone : ∀ stream ∈ listed, stream.streamType ∉ types) : Shows document listed types key none
  | first (before : List Pmt.Stream) (stream : Pmt.Stream) (after : List Pmt.Stream)
    (codec : Codec) (spelling : String) (entry : Json)
    (hlisted : listed = before ++ stream :: after)
    (hbefore : ∀ earlier ∈ before, earlier.streamType ∉ types)
    (htype : stream.streamType ∈ types)
    (hkey : document.field? key = some (nat stream.pid))
    (hentry : (streamEntries document)[before.length]? = some entry)
    (hpid : entry.field? "pid" = some (nat stream.pid))
    (hspelling : codec.SpelledAs spelling)
    (hcodec : entry.field? "codec" = some (text spelling)) :
    Shows document listed types key (some (stream.pid, codec))

theorem field?_stream_codec (stream : Pmt.Stream) :
    (Report.stream stream).field? "codec" = stream.codec?.map (text ·.name) := by
  unfold Report.stream field?
  cases stream.codec? <;> rfl

theorem field?_stream_pid (stream : Pmt.Stream) :
    (Report.stream stream).field? "pid" = some (nat stream.pid) := by
  unfold Report.stream field?
  cases stream.codec? <;> rfl

section Pmt

variable (pmt : Pmt)

theorem field?_pmt_videoPid :
    (Report.pmt pmt).field? "video_pid" = (pmt.firstVideo?.map (·.pid)).map nat := by
  unfold Report.pmt field?
  cases pmt.firstAudio? <;> cases pmt.firstVideo? <;> rfl

theorem field?_pmt_audioPid :
    (Report.pmt pmt).field? "audio_pid" = (pmt.firstAudio?.map (·.pid)).map nat := by
  unfold Report.pmt field?
  cases pmt.firstAudio? <;> cases pmt.firstVideo? <;> rfl

theorem field?_pmt_programNumber :
    (Report.pmt pmt).field? "program_number" = some (nat pmt.programNumber) := by
  unfold Report.pmt field?
  cases pmt.firstAudio? <;> rfl

theorem streamEntries_pmt :
    streamEntries (Report.pmt pmt) = pmt.streams.items.map Report.stream := by
  unfold streamEntries Report.pmt field?
  cases pmt.firstAudio? <;> rfl

/-- The entry for a stream shows a codec if the stream is of a type that is selected. -/
theorem exists_streamEntry {index : Nat} {stream : Pmt.Stream}
    (h : pmt.streams.items[index]? = some stream) :
    ∃ entry, (streamEntries (Report.pmt pmt))[index]? = some entry ∧
      ((entry.field? "codec").isSome ↔
        stream.streamType ∈ videoStreamTypes ∨ stream.streamType ∈ audioStreamTypes) := by
  refine ⟨Report.stream stream, ?_, ?_⟩
  · rw [streamEntries_pmt, List.getElem?_map, h, Option.map_some]
  · rw [field?_stream_codec, Option.isSome_map, Pmt.Stream.codec?, Codec.isSome_ofStreamType?_iff]

/-- A report that shows the PID of the first stream of some types shows its codec as well, if the
player has one for each of the types. -/
theorem shows_pmt {types : List Nat} {key : String} {found : Option Pmt.Stream}
    (hfound : pmt.streams.items.find? (·.streamType ∈ types) = found)
    (hkey : (Report.pmt pmt).field? key = (found.map (·.pid)).map nat)
    (htypes : ∀ streamType ∈ types, (Codec.ofStreamType? streamType).isSome) :
    Shows (Report.pmt pmt) pmt.streams.items types key
      (found.bind (·.playable?)) := by
  rcases found with _ | stream
  · refine .nothing hkey fun stream hmem => ?_
    simpa using List.find?_eq_none.1 hfound stream hmem
  · obtain ⟨htype, before, after, hlisted, hbefore⟩ := List.find?_eq_some_iff_append.1 hfound
    rw [decide_eq_true_eq] at htype
    obtain ⟨codec, hcodec⟩ := Option.isSome_iff_exists.1 (htypes _ htype)
    have hcodec : stream.codec? = some codec := hcodec
    rw [Option.bind_some, Pmt.Stream.playable?, hcodec, Option.map_some]
    refine .first before stream after codec codec.name (Report.stream stream) hlisted
      (by simpa using hbefore) htype hkey ?_ (field?_stream_pid stream) codec.spelledAs_name ?_
    · rw [streamEntries_pmt, hlisted]
      simp
    · rw [field?_stream_codec, hcodec, Option.map_some]

theorem shows_video : Shows (Report.pmt pmt) pmt.streams.items videoStreamTypes "video_pid"
    (pmt.firstVideo?.bind (·.playable?)) :=
  shows_pmt pmt rfl (field?_pmt_videoPid pmt) fun streamType hmem =>
    (Codec.isSome_ofStreamType?_iff streamType).2 (Or.inl hmem)

theorem shows_audio : Shows (Report.pmt pmt) pmt.streams.items audioStreamTypes "audio_pid"
    (pmt.firstAudio?.bind (·.playable?)) :=
  shows_pmt pmt rfl (field?_pmt_audioPid pmt) fun streamType hmem =>
    (Codec.isSome_ofStreamType?_iff streamType).2 (Or.inr hmem)

end Pmt

end Report

end DvbReceiver
