import DvbReceiver.Table.Pmt
import DvbReceiver.Proofs.Section.Header
import DvbReceiver.Proofs.Table.Records

/-!
# Decoding a PMT

`Pmt.Layout` is a PMT as it is broadcast, with its reserved bits, the descriptors of the programme
and those of each stream. `Pmt.streams_exact` says what its octets decode to: the header and every
stream, if there are at most 20 of them, whatever the descriptors are.

A stream record is as long as its own length field says, so the place of the next one depends on
what has been read. The place in the buffer and the part of the section length that is left stay in
step, for both go on by the length of the record (`RecordLoop.exists_reads_of_written`).
-/

namespace DvbReceiver.Pmt

/-! ## Stream records -/

/-- The stream record at the start of a buffer. -/
def Stream.ofBits (buffer : Bytes) : Stream where
  streamType := Bits.field buffer 0 8
  pid := Bits.field buffer 11 13
  infoLength := Bits.field buffer 28 12

theorem Stream.decode_of_le {buffer : Bytes} (h : streamSize ≤ buffer.length) :
    decode buffer = .ok (ofBits buffer) := by
  have hlength : 5 ≤ buffer.length := h
  unfold decode Bits.u8At Bits.lowBits
  simp (disch := omega) only [Bits.extract_of_le, ok_bind]
  rfl

/-- The length of the descriptors is the last that is read. -/
theorem Stream.length_of_decode {buffer : Bytes} {stream : Stream}
    (h : decode buffer = .ok stream) : streamSize ≤ buffer.length := by
  unfold decode at h
  simp only [bind_eq_ok, pure_eq_ok] at h
  obtain ⟨streamType, -, pid, -, info, hinfo, rfl⟩ := h
  exact Bits.length_of_extract hinfo

/-- A stream record as it is broadcast, with its descriptors. -/
structure Stream.Layout where
  streamType : BitVec 8
  reservedBeforePid : BitVec 3
  pid : BitVec 13
  reservedBeforeLength : BitVec 4
  /-- The descriptors. -/
  info : Bytes

namespace Stream.Layout

variable (layout : Layout)

/-- The words of the record before its descriptors. -/
def words : List Bits.Word :=
  [⟨8, layout.streamType⟩, ⟨3, layout.reservedBeforePid⟩, ⟨13, layout.pid⟩,
    ⟨4, layout.reservedBeforeLength⟩, ⟨12, .ofNat 12 layout.info.length⟩]

def bytes : Bytes := Bits.write layout.words ++ layout.info

/-- The stream that a reader is to find. -/
def stream : Stream := ⟨layout.streamType.toNat, layout.pid.toNat, layout.info.length⟩

theorem totalWidth_words : Bits.totalWidth layout.words = 40 := by rfl

theorem length_write_words : (Bits.write layout.words).length = streamSize := by
  rw [Bits.length_write, totalWidth_words]
  rfl

theorem stride_stream : layout.stream.stride = layout.bytes.length := by
  rw [bytes, List.length_append, length_write_words]
  rfl

/-- A record is decoded whatever comes behind the length of its descriptors. -/
theorem decode_write_words_append (h : layout.info.length < 4096) (rest : Bytes) :
    Stream.decode (Bits.write layout.words ++ rest) = .ok layout.stream := by
  have hfield := Bits.field_write layout.words (by rw [totalWidth_words]) rest
  have htype : Bits.field _ 0 8 = _ := hfield 0 ⟨8, layout.streamType⟩ rfl
  have hpid : Bits.field _ 11 13 = _ := hfield 2 ⟨13, layout.pid⟩ rfl
  have hinfo : Bits.field _ 28 12 = layout.info.length :=
    (hfield 4 ⟨12, .ofNat 12 layout.info.length⟩ rfl).trans (Nat.mod_eq_of_lt h)
  have hlong : streamSize ≤ (Bits.write layout.words ++ rest).length := by
    rw [List.length_append, length_write_words]
    exact Nat.le_add_right _ _
  rw [Stream.decode_of_le hlong, Stream.ofBits, htype, hpid, hinfo]
  rfl

theorem decode_bytes_append (h : layout.info.length < 4096) (rest : Bytes) :
    Stream.decode (layout.bytes ++ rest) = .ok layout.stream := by
  rw [bytes, List.append_assoc]
  exact layout.decode_write_words_append h _

end Stream.Layout

/-- The loop over the streams. -/
def streamLoop : RecordLoop Stream where
  table := .pmt
  decode := Stream.decode
  stride := Stream.stride
  cost := Stream.stride
  cost_pos _ := Nat.lt_of_lt_of_le (by decide) (Nat.le_add_right streamSize _)

theorem readStreams_eq_run : readStreams = streamLoop.run :=
  streamLoop.eq_run readStreams fun buffer declared read => by
    rw [readStreams]
    rfl

/-! ## The section -/

/-- The header at the start of a buffer. -/
def Header.ofBits (buffer : Bytes) : Header where
  toLongHeader := .ofBits buffer
  pcrPid := Bits.field buffer 67 13
  programInfoLength := Bits.field buffer 84 12

theorem Header.decode_of_le {buffer : Bytes} (h : headerSize ≤ buffer.length)
    (htableId : buffer.head? = some 0x02) : decode buffer = .ok (ofBits buffer) := by
  have hlength : 12 ≤ buffer.length := h
  have hlong : LongHeader.decode TableKind.pmt.tableId buffer = .ok (.ofBits buffer) :=
    LongHeader.decode_of_le (by omega) htableId rfl
  unfold decode Bits.lowBits
  simp (disch := omega) only [hlong, Bits.extract_of_le, ok_bind]
  rfl

/-- The length of the programme's descriptors is the last that is read. -/
theorem Header.length_of_decode {buffer : Bytes} {header : Header}
    (h : decode buffer = .ok header) : headerSize ≤ buffer.length := by
  unfold decode at h
  simp only [bind_eq_ok, pure_eq_ok] at h
  obtain ⟨long, -, pcrPid, -, info, hinfo, rfl⟩ := h
  exact Bits.length_of_extract hinfo

/-- The streams behind the header of a buffer and the programme's descriptors. -/
def decodeStreams (buffer : Bytes) : Except ParseError (BoundedList Stream 20) :=
  let header := Header.ofBits buffer
  streamLoop.run (buffer.drop (headerSize + header.programInfoLength))
    (header.sectionLength - (overhead + header.programInfoLength)) .empty

/-- Behind a header all is up to the streams. -/
theorem decode_eq_decodeStreams {buffer : Bytes} (h : headerSize ≤ buffer.length)
    (htableId : buffer.head? = some 0x02) :
    decode buffer = (decodeStreams buffer).map (⟨Header.ofBits buffer, ·⟩) := by
  rw [decode, Header.decode_of_le h htableId, ok_bind, readStreams_eq_run]
  rfl

/-- A PMT as it is broadcast. -/
structure Layout where
  header : LongHeader.Layout
  reservedBeforePcrPid : BitVec 3
  pcrPid : BitVec 13
  reservedBeforeInfo : BitVec 4
  /-- The descriptors of the programme. -/
  programInfo : Bytes
  streams : List Stream.Layout
  checksum : BitVec 32

namespace Layout

/-- The bytes of stream records with their descriptors. -/
def streamsLength : List Stream.Layout → Nat
  | [] => 0
  | stream :: streams => (5 + stream.info.length) + streamsLength streams

variable (layout : Layout)

/-- The bytes behind the length field: the rest of the header, descriptors, streams, checksum. -/
def sectionLength : Nat := 9 + layout.programInfo.length + streamsLength layout.streams + 4

def headerWords : List Bits.Word := layout.header.words 0x02 (.ofNat 12 layout.sectionLength)

/-- The words between the header that all long sections have and the programme's descriptors. -/
def infoWords : List Bits.Word :=
  [⟨3, layout.reservedBeforePcrPid⟩, ⟨13, layout.pcrPid⟩, ⟨4, layout.reservedBeforeInfo⟩,
    ⟨12, .ofNat 12 layout.programInfo.length⟩]

/-- The octets of the section. -/
def bytes : Bytes :=
  Bits.write layout.headerWords ++ (Bits.write layout.infoWords ++ (layout.programInfo ++
    (layout.streams.flatMap Stream.Layout.bytes ++ Bits.write [⟨32, layout.checksum⟩])))

/-- The header that a reader is to find. -/
def tableHeader : Header where
  toLongHeader := layout.header.header 0x02 (.ofNat 12 layout.sectionLength)
  pcrPid := layout.pcrPid.toNat
  programInfoLength := layout.programInfo.length

theorem length_flatMap_bytes (streams : List Stream.Layout) :
    (streams.flatMap Stream.Layout.bytes).length = streamsLength streams := by
  induction streams with
  | nil => rfl
  | cons stream streams ih =>
    rw [List.flatMap_cons, List.length_append, ih, ← stream.stride_stream]
    rfl

theorem streamsLength_concat (front : List Stream.Layout) (last : Stream.Layout) :
    streamsLength (front ++ [last]) = streamsLength front + last.stream.stride := by
  rw [← length_flatMap_bytes, ← length_flatMap_bytes, List.flatMap_append, List.length_append,
    List.flatMap_singleton, last.stride_stream]

theorem length_info_le_streamsLength {streams : List Stream.Layout} {stream : Stream.Layout}
    (h : stream ∈ streams) : stream.info.length ≤ streamsLength streams := by
  induction streams with
  | nil => cases h
  | cons first streams ih =>
    rw [streamsLength]
    rcases List.mem_cons.1 h with rfl | h
    · omega
    · have := ih h
      omega

theorem length_write_headerWords : (Bits.write layout.headerWords).length = 8 :=
  layout.header.length_write_words _ _

theorem totalWidth_infoWords : Bits.totalWidth layout.infoWords = 32 := by rfl

theorem length_write_infoWords : (Bits.write layout.infoWords).length = 4 := by
  rw [Bits.length_write, totalWidth_infoWords]

variable {layout} (h : layout.sectionLength ≤ 4095)

include h

theorem length_programInfo_lt : layout.programInfo.length < 4096 := by
  unfold sectionLength at h
  omega

theorem length_info_lt {stream : Stream.Layout} (hmem : stream ∈ layout.streams) :
    stream.info.length < 4096 := by
  have := length_info_le_streamsLength hmem
  unfold sectionLength at h
  omega

/-- The header is decoded whatever comes behind it. -/
theorem decode_header_append (rest : Bytes) :
    Header.decode (Bits.write layout.headerWords ++ (Bits.write layout.infoWords ++ rest)) =
      .ok layout.tableHeader := by
  have hheader := layout.header.decode_write_words 0x02 (.ofNat 12 layout.sectionLength)
    (show (0x02 : BitVec 8).toNat = TableKind.pmt.tableId from rfl)
    (Bits.write layout.infoWords ++ rest)
  have hfield := Bits.field_append_write (Bits.write layout.headerWords) layout.infoWords
    (by rw [totalWidth_infoWords]) rest
  rw [layout.length_write_headerWords] at hfield
  have hpcrPid : Bits.field _ (8 * 8 + (16 - 13)) 13 = _ := hfield 1 ⟨13, layout.pcrPid⟩ rfl
  have hinfo : Bits.field _ (8 * 10 + (16 - 12)) 12 = layout.programInfo.length :=
    (hfield 3 ⟨12, .ofNat 12 layout.programInfo.length⟩ rfl).trans
      (Nat.mod_eq_of_lt (length_programInfo_lt h))
  have hlong : 12 ≤
      (Bits.write layout.headerWords ++ (Bits.write layout.infoWords ++ rest)).length := by
    rw [List.length_append, List.length_append, length_write_headerWords, length_write_infoWords]
    omega
  rw [Header.decode, headerWords, hheader, ok_bind, ← headerWords, Bits.lowBits, Bits.lowBits,
    Bits.extract_of_le (by decide) (by decide) (by omega), hpcrPid,
    Bits.extract_of_le (by decide) (by decide) (by omega), hinfo]
  rfl

/-- Behind the header the streams are read, from the one behind the programme's descriptors on. -/
theorem decode_header_append_eq_run (rest : Bytes) :
    decode (Bits.write layout.headerWords ++ (Bits.write layout.infoWords ++ rest)) =
      (streamLoop.run (rest.drop layout.programInfo.length) (streamsLength layout.streams)
        .empty).map (⟨layout.tableHeader, ·⟩) := by
  have hdeclared : layout.tableHeader.sectionLength - (overhead + layout.programInfo.length) =
      streamsLength layout.streams := by
    have hsection : layout.tableHeader.sectionLength = layout.sectionLength :=
      Nat.mod_eq_of_lt (Nat.lt_succ_of_le h)
    rw [hsection, sectionLength, overhead]
    omega
  have hdrop : (Bits.write layout.headerWords ++ (Bits.write layout.infoWords ++ rest)).drop
      (headerSize + layout.programInfo.length) = rest.drop layout.programInfo.length := by
    rw [← List.drop_drop, ← List.append_assoc]
    congr 1
    refine List.drop_left' ?_
    rw [List.length_append, length_write_headerWords, length_write_infoWords]
    rfl
  have hinfo : layout.tableHeader.programInfoLength = layout.programInfo.length := rfl
  rw [decode, decode_header_append h, ok_bind, hinfo, hdeclared, readStreams_eq_run, hdrop]
  rfl

/-- The streams are read from the first one on, up to the checksum. -/
theorem decode_bytes_eq_run (trailing : Bytes) :
    decode (layout.bytes ++ trailing) =
      (streamLoop.run (layout.streams.flatMap Stream.Layout.bytes ++
          (Bits.write [⟨32, layout.checksum⟩] ++ trailing))
        (layout.streams.flatMap Stream.Layout.bytes).length .empty).map
          (⟨layout.tableHeader, ·⟩) := by
  simp only [bytes, List.append_assoc]
  rw [decode_header_append_eq_run h, List.drop_left, length_flatMap_bytes]

/-- All the streams are read. -/
theorem exists_reads (trailing : Bytes) :
    ∃ behind, streamLoop.Reads (layout.streams.flatMap Stream.Layout.bytes ++ trailing)
      (layout.streams.flatMap Stream.Layout.bytes).length
      (layout.streams.map Stream.Layout.stream) behind 0 :=
  streamLoop.exists_reads_of_written _ _ _ _
    (fun _ hmem => Stream.Layout.decode_bytes_append _ (length_info_lt h hmem))
    (fun stream _ => stream.stride_stream) (fun stream _ => stream.stride_stream)

end Layout

/-- **PMT decoding is exact.** A PMT that is broadcast with at most 20 streams decodes to its header
and to every one of its streams in order, and one with more is refused. -/
theorem streams_exact (layout : Layout) (trailing : Bytes) (h : layout.sectionLength ≤ 4095) :
    (layout.streams.length ≤ 20 → ∃ pmt, decode (layout.bytes ++ trailing) = .ok pmt ∧
      pmt.header = layout.tableHeader ∧
      pmt.streams.items = layout.streams.map Stream.Layout.stream) ∧
    (20 < layout.streams.length →
      decode (layout.bytes ++ trailing) = .error (.capacityExceeded .pmt 20)) := by
  obtain ⟨behind, hreads⟩ := Layout.exists_reads h (Bits.write [⟨32, layout.checksum⟩] ++ trailing)
  rw [Layout.decode_bytes_eq_run h]
  constructor
  · intro hroom
    rw [hreads.run_empty_eq_ok (by rwa [List.length_map])]
    exact ⟨_, rfl, rfl, rfl⟩
  · intro hmany
    rw [hreads.run_eq_full (by simpa [BoundedList.empty] using hmany)]
    rfl

/-- A PMT with the given number of streams. Its descriptors, and those of each stream, look like a
stream record. -/
def Layout.sample (count : Nat) : Layout where
  header := ⟨true, 3, 1, 3, 0, true, 0, 0⟩
  reservedBeforePcrPid := 7
  pcrPid := 0x100
  reservedBeforeInfo := 15
  programInfo := [0x1B, 0xE1, 0x00, 0xF0, 0x00]
  streams := .replicate count ⟨0x1B, 7, 0x101, 15, [0x0F, 0xE1, 0x02, 0xF0, 0x00]⟩
  checksum := 0xDEADBEEF

/-- The octets of a PMT with one stream. -/
example : (Layout.sample 1).bytes =
    [0x02, 0xB0, 0x1C, 0x00, 0x01, 0xC1, 0x00, 0x00, 0xE1, 0x00, 0xF0, 0x05, 0x1B, 0xE1, 0x00, 0xF0,
      0x00, 0x1B, 0xE1, 0x01, 0xF0, 0x05, 0x0F, 0xE1, 0x02, 0xF0, 0x00, 0xDE, 0xAD, 0xBE,
      0xEF] := by
  decide

/-- 20 streams are read, and one more is one too many. -/
theorem streams_exact_sample :
    ((Layout.sample 20).sectionLength ≤ 4095 ∧ ∃ pmt, decode ((Layout.sample 20).bytes ++ [0xFF]) =
        .ok pmt ∧ pmt.header = (Layout.sample 20).tableHeader ∧
          pmt.streams.items = .replicate 20 ⟨0x1B, 0x101, 5⟩) ∧
      (Layout.sample 21).sectionLength ≤ 4095 ∧
      decode (Layout.sample 21).bytes = .error (.capacityExceeded .pmt 20) :=
  ⟨⟨by decide, (streams_exact (.sample 20) [0xFF] (by decide)).1 (by decide)⟩, by decide,
    List.append_nil (Layout.sample 21).bytes ▸
      (streams_exact (.sample 21) [] (by decide)).2 (by decide)⟩

end DvbReceiver.Pmt
