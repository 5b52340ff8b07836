import DvbReceiver.Proofs.Section.Split
import DvbReceiver.Proofs.Table.Stability

/-!
# How much of a section is read

`Lacks` says that a decoder misses bytes. A section that is cut out of a recording lacks none, and
its decoder sees nothing of what comes behind it (`Section.selfContained_of_split`): the records are
read while something is declared that is no checksum, and the four bytes of the checksum are enough
for the one that begins last (`RecordLoop.ok_or_full_of_reserve`).

The other way round a decoder need not read its section to the end. What it does read is a front of
the section (`ReadsTo`), and only what is cut off that front is missed. Of a PMT the front ends
before the descriptors that stand last, for they are skipped and nothing is read behind them
(`Pmt.lacks_take_bytes_iff`).
-/

namespace DvbReceiver

variable {α : Type} {read : Bytes → Except ParseError α} {buffer : Bytes} {count : Nat}

/-- The reader misses bytes. -/
def Lacks (read : Bytes → Except ParseError α) (buffer : Bytes) : Prop :=
  ∃ needed available, read buffer = .error (.truncated needed available)

theorem not_lacks_of_ok {a : α} (h : read buffer = .ok a) : ¬Lacks read buffer := by
  rintro ⟨needed, available, hlacks⟩
  cases h.symm.trans hlacks

/-- What reads a part first lacks what the part lacks. -/
theorem Lacks.bind {β : Type} {next : α → Bytes → Except ParseError β} (h : Lacks read buffer) :
    Lacks (fun buffer => read buffer >>= fun a => next a buffer) buffer := by
  obtain ⟨needed, available, hlacks⟩ := h
  exact ⟨needed, available, by simp only [hlacks, error_bind]⟩

/-- A section has all that its decoder asks for, and the decoder does not see what is behind it. -/
structure SelfContained (read : Bytes → Except ParseError α) (buffer : Bytes) : Prop where
  complete : ¬Lacks read buffer
  unseen : ∀ more, read (buffer ++ more) = read buffer

namespace StableAt

theorem selfContained (h : StableAt read buffer) (hcomplete : ¬Lacks read buffer) :
    SelfContained read buffer where
  complete := hcomplete
  unseen := h.settled fun needed available hlacks => hcomplete ⟨needed, available, hlacks⟩

/-- What is found in the front of a buffer is found in the buffer. -/
theorem eq_of_not_lacks (h : StableAt read (buffer.take count))
    (hfound : ¬Lacks read (buffer.take count)) : read buffer = read (buffer.take count) := by
  have hunseen := (h.selfContained hfound).unseen (buffer.drop count)
  rwa [List.take_append_drop] at hunseen

/-- What a buffer lacks its fronts lack. -/
theorem lacks_take (h : StableAt read (buffer.take count)) (hlacks : Lacks read buffer) :
    Lacks read (buffer.take count) := by
  by_contra hfound
  obtain ⟨needed, available, herror⟩ := hlacks
  exact hfound ⟨needed, available, (h.eq_of_not_lacks hfound).symm.trans herror⟩

end StableAt

/-- The reader goes to the last byte of `front`, and there it is done. -/
structure ReadsTo (read : Bytes → Except ParseError α) (front : Bytes) (a : α) : Prop where
  found : read front = .ok a
  lacks : Lacks read front.dropLast

namespace ReadsTo

variable {front : Bytes} {a : α}

theorem ne_nil (h : ReadsTo read front a) : front ≠ [] := by
  rintro rfl
  exact not_lacks_of_ok h.found h.lacks

/-- A decoder that goes on with a reader goes as far as the reader. -/
theorem behind {β : Type} {decode : Bytes → Except ParseError β} {f : α → β}
    (h : ReadsTo read front a) (before : Bytes)
    (hdecode : ∀ rest, decode (before ++ rest) = (read rest).map f) :
    ReadsTo decode (before ++ front) (f a) where
  found := by
    rw [hdecode, h.found]
    rfl
  lacks := by
    obtain ⟨needed, available, hlacks⟩ := h.lacks
    rw [List.dropLast_append_of_ne_nil h.ne_nil]
    exact ⟨needed, available, by rw [hdecode, hlacks]; rfl⟩

variable (hstable : ∀ buffer, StableAt read buffer)

include hstable

/-- A reader that finds nothing in fewer bytes reads to the last of them. -/
theorem of_length_le (hpos : 0 < front.length) (hfound : read front = .ok a)
    (hlength : ∀ {buffer a}, read buffer = .ok a → front.length ≤ buffer.length) :
    ReadsTo read front a where
  found := hfound
  lacks := by
    rw [List.dropLast_eq_take]
    by_contra hshort
    rw [(hstable _).eq_of_not_lacks hshort] at hfound
    have hle := hlength hfound
    rw [List.length_take] at hle
    omega

/-- **Only what is cut off the front is missed.** -/
theorem lacks_take_iff (h : ReadsTo read front a) (rest : Bytes) (count : Nat) :
    (Lacks read ((front ++ rest).take count) ↔ count < front.length) ∧
      (front.length ≤ count → read ((front ++ rest).take count) = .ok a) := by
  have hfound (hcount : front.length ≤ count) : read ((front ++ rest).take count) = .ok a := by
    rw [List.take_append, List.take_of_length_le hcount]
    rw [((hstable front).selfContained (not_lacks_of_ok h.found)).unseen, h.found]
  refine ⟨⟨fun hlacks => ?_, fun hcount => ?_⟩, hfound⟩
  · exact Nat.lt_of_not_le fun hcount => not_lacks_of_ok (hfound hcount) hlacks
  · have htake : (front ++ rest).take count = front.dropLast.take count := by
      rw [List.take_append_of_le_length (Nat.le_of_lt hcount), List.dropLast_eq_take,
        List.take_take, Nat.min_eq_left (Nat.le_sub_one_of_lt hcount)]
    rw [htake]
    exact (hstable _).lacks_take h.lacks

end ReadsTo

/-- A loop goes no further than its last record is read. -/
theorem RecordLoop.readsTo_run {loop : RecordLoop α} {capacity : Nat} {front : Bytes} {record : α}
    {list : BoundedList α capacity} (h : ReadsTo loop.decode front record)
    (hroom : (list.items ++ [record]).length ≤ capacity) :
    ReadsTo (loop.run · (loop.cost record) list) front ⟨list.items ++ [record], hroom⟩ where
  found := by
    rw [run_of_room (Nat.ne_of_gt (loop.cost_pos record)) h.found hroom, Nat.sub_self, run_zero]
  lacks := by
    obtain ⟨needed, available, hlacks⟩ := h.lacks
    exact ⟨needed, available, run_of_error (Nat.ne_of_gt (loop.cost_pos record)) hlacks⟩

/-! ## Sections that are cut out of a recording -/

namespace Section

variable {bytes : Bytes}

theorem Whole.not_lacks_pat (h : Whole bytes) (hhead : bytes.head? = some 0x00)
    (hheader : 8 ≤ bytes.length) : ¬Lacks Pat.decode bytes := by
  -- Of what is behind the header, all but the checksum is declared for the services.
  have hlength : bytes.length = 3 + (LongHeader.ofBits bytes).sectionLength := h.length_eq
  have hservices : (∃ list, Pat.decodeServices bytes = .ok list) ∨
      Pat.decodeServices bytes = .error (.capacityExceeded .pat 20) :=
    Pat.serviceLoop.ok_or_full_of_reserve
      (fun _ hlong => ⟨_, Pat.Service.decode_of_le (Nat.le_of_lt hlong)⟩) (fun _ => rfl) fun _ => by
        rw [List.length_drop]
        unfold Pat.overhead Pat.headerSize Pat.serviceSize at *
        omega
  rintro ⟨needed, available, hlacks⟩
  rw [Pat.decode_eq_decodeServices hheader hhead] at hlacks
  rcases hservices with ⟨list, hrun⟩ | hrun <;> rw [hrun] at hlacks <;> cases hlacks

theorem Whole.not_lacks_pmt (h : Whole bytes) (hhead : bytes.head? = some 0x02)
    (hheader : 12 ≤ bytes.length) : ¬Lacks Pmt.decode bytes := by
  have hlength : bytes.length = 3 + (Pmt.Header.ofBits bytes).sectionLength := h.length_eq
  have hstreams : (∃ list, Pmt.decodeStreams bytes = .ok list) ∨
      Pmt.decodeStreams bytes = .error (.capacityExceeded .pmt 20) :=
    Pmt.streamLoop.ok_or_full_of_reserve (fun _ hlong => ⟨_, Pmt.Stream.decode_of_le hlong⟩)
      (fun _ => rfl) fun _ => by
        rw [List.length_drop]
        unfold Pmt.overhead Pmt.headerSize at *
        omega
  rintro ⟨needed, available, hlacks⟩
  rw [Pmt.decode_eq_decodeStreams hheader hhead] at hlacks
  rcases hstreams with ⟨list, hrun⟩ | hrun <;> rw [hrun] at hlacks <;> cases hlacks

/-- **A section that is cut out of a recording is complete for its decoder**, whatever lengths it
declares inside: the decoder of a PAT or of a PMT lacks nothing, sees nothing behind the declared
length of the section, and finds the same where the section stands in the recording. -/
theorem selfContained_of_split {data : Bytes} {before behind : List Bytes}
    (h : split data = before ++ bytes :: behind) :
    bytes.length = declared bytes ∧
    (bytes.head? = some 0x00 → 8 ≤ bytes.length → SelfContained Pat.decode bytes ∧
      Pat.decode (data.drop before.flatten.length) = Pat.decode bytes) ∧
    (bytes.head? = some 0x02 → 12 ≤ bytes.length → SelfContained Pmt.decode bytes ∧
      Pmt.decode (data.drop before.flatten.length) = Pmt.decode bytes) := by
  obtain ⟨hwhole, more, hmore⟩ := exists_drop_eq_append h
  rw [hmore]
  refine ⟨hwhole.length_eq, fun hhead hheader => ?_, fun hhead hheader => ?_⟩
  · have hself := Pat.stableAt_decode.selfContained (hwhole.not_lacks_pat hhead hheader)
    exact ⟨hself, hself.unseen more⟩
  · have hself := Pmt.stableAt_decode.selfContained (hwhole.not_lacks_pmt hhead hheader)
    exact ⟨hself, hself.unseen more⟩

/-- A PMT section whose only stream declares 4095 bytes of descriptors and has none. -/
def overshooting : Bytes :=
  [0x02, 0xB0, 0x12, 0x00, 0x01, 0xC1, 0x00, 0x00, 0xE1, 0x00, 0xF0, 0x00, 0x1B, 0xE1, 0x01, 0xFF,
    0xFF, 0xDE, 0xAD, 0xBE, 0xEF]

/-- A recording of a PAT and a PMT that declare more than they have, with stuffing behind them. -/
def recorded : Bytes := Pat.strayByte ++ overshooting ++ [0xFF, 0xFF]

theorem selfContained_of_split_recorded :
    split recorded = [] ++ Pat.strayByte :: [overshooting] ∧
      split recorded = [Pat.strayByte] ++ overshooting :: [] ∧
      SelfContained Pat.decode Pat.strayByte ∧ SelfContained Pmt.decode overshooting ∧
      Pmt.decode (recorded.drop 17) = Pmt.decode overshooting :=
  have hpat : split recorded = [] ++ Pat.strayByte :: [overshooting] := by decide +kernel
  have hpmt : split recorded = [Pat.strayByte] ++ overshooting :: [] := by decide +kernel
  ⟨hpat, hpmt, ((selfContained_of_split hpat).2.1 rfl (by decide)).1,
    (selfContained_of_split hpmt).2.2 rfl (by decide)⟩

end Section

/-! ## The part of a PMT that is read -/

namespace Pmt

theorem Header.readsTo {layout : Layout} (h : layout.sectionLength ≤ 4095) :
    ReadsTo Header.decode (Bits.write layout.headerWords ++ Bits.write layout.infoWords)
      layout.tableHeader := by
  have hlength : (Bits.write layout.headerWords ++ Bits.write layout.infoWords).length =
      headerSize := by
    rw [List.length_append, layout.length_write_headerWords, layout.length_write_infoWords]
    rfl
  refine .of_length_le (fun _ => stableAt_decode) (by rw [hlength]; decide) ?_ fun hfound => ?_
  · have hfound := Layout.decode_header_append h []
    rwa [List.append_nil] at hfound
  · rw [hlength]
    exact length_of_decode hfound

theorem Stream.readsTo (layout : Stream.Layout) (h : layout.info.length < 4096) :
    ReadsTo Stream.decode (Bits.write layout.words) layout.stream := by
  refine .of_length_le (fun _ => stableAt_decode) ?_ ?_ fun hfound => ?_
  · rw [layout.length_write_words]
    decide
  · have hfound := layout.decode_write_words_append h []
    rwa [List.append_nil] at hfound
  · rw [layout.length_write_words]
    exact length_of_decode hfound

namespace Layout

variable (layout : Layout)

/-- The bytes before the checksum. -/
def checksumStart : Nat := headerSize + layout.programInfo.length + streamsLength layout.streams

/-- The descriptors that stand last: those of the last stream, or of the programme. -/
def lastInfo : Bytes := (layout.streams.getLast?.map (·.info)).getD layout.programInfo

/-- The bytes before the descriptors that stand last. -/
def readEnd : Nat := layout.checksumStart - layout.lastInfo.length

/-- The octets before the last stream, if `streams` are those before it. -/
def before (streams : List Stream.Layout) : Bytes :=
  Bits.write layout.headerWords ++ (Bits.write layout.infoWords ++ (layout.programInfo ++
    streams.flatMap Stream.Layout.bytes))

theorem length_before (streams : List Stream.Layout) :
    (layout.before streams).length =
      headerSize + layout.programInfo.length + streamsLength streams := by
  simp only [before, List.length_append, length_write_headerWords, length_write_infoWords,
    length_flatMap_bytes, headerSize]
  omega

variable {layout} {front : List Stream.Layout} {last : Stream.Layout}

theorem bytes_eq_before_append (hstreams : layout.streams = front ++ [last]) :
    layout.bytes = (layout.before front ++ Bits.write last.words) ++
      (last.info ++ Bits.write [⟨32, layout.checksum⟩]) := by
  rw [bytes, hstreams]
  simp only [before, Stream.Layout.bytes, List.flatMap_append, List.flatMap_singleton,
    List.append_assoc]

theorem length_before_append (hstreams : layout.streams = front ++ [last]) :
    (layout.before front ++ Bits.write last.words).length = layout.readEnd := by
  have hinfo : layout.lastInfo = last.info := by
    rw [lastInfo, hstreams, List.getLast?_concat]
    rfl
  have hstride : last.stream.stride = streamSize + last.info.length := rfl
  rw [List.length_append, length_before, last.length_write_words, readEnd, checksumStart, hinfo,
    hstreams, streamsLength_concat, hstride]
  omega

variable (h : layout.sectionLength ≤ 4095)

include h

/-- Before the last stream all others have been read. -/
theorem decode_before_append (hstreams : layout.streams = front ++ [last])
    (hroom : (front.map Stream.Layout.stream).length ≤ 20) (rest : Bytes) :
    decode (layout.before front ++ rest) =
      (streamLoop.run rest last.stream.stride ⟨front.map Stream.Layout.stream, hroom⟩).map
        (⟨layout.tableHeader, ·⟩) := by
  have hmem {stream : Stream.Layout} (hfront : stream ∈ front) : stream ∈ layout.streams :=
    hstreams ▸ List.mem_append_left _ hfront
  have hreads := streamLoop.reads_of_written Stream.Layout.bytes Stream.Layout.stream front rest
    last.stream.stride
    (fun stream hfront => stream.decode_bytes_append (length_info_lt h (hmem hfront)))
    (fun stream _ => stream.stride_stream) (fun stream _ => stream.stride_stream)
  simp only [before, List.append_assoc]
  rw [decode_header_append_eq_run h, List.drop_left, hstreams, streamsLength_concat,
    ← length_flatMap_bytes, hreads.run_eq hroom]
  rfl

/-- A PMT is read up to the descriptors that stand last. -/
theorem exists_readsTo (hroom : layout.streams.length ≤ 20) :
    ∃ read rest pmt, layout.bytes = read ++ rest ∧ read.length = layout.readEnd ∧
      ReadsTo decode read pmt ∧ pmt.header = layout.tableHeader ∧
      pmt.streams.items = layout.streams.map Stream.Layout.stream := by
  rcases List.eq_nil_or_concat' layout.streams with hnil | ⟨front, last, hstreams⟩
  · -- Without streams nothing is read behind the header.
    refine ⟨Bits.write layout.headerWords ++ Bits.write layout.infoWords, _,
      ⟨layout.tableHeader, .empty⟩, (List.append_assoc _ _ _).symm, ?_, ⟨?_, ?_⟩, rfl, ?_⟩
    · rw [List.length_append, length_write_headerWords, length_write_infoWords]
      simp [readEnd, checksumStart, lastInfo, hnil, streamsLength, headerSize]
    · have hdecode := decode_header_append_eq_run h []
      rw [hnil, streamsLength, RecordLoop.run_zero, List.append_nil] at hdecode
      exact hdecode
    · exact (Header.readsTo h).lacks.bind
    · rw [hnil]
      rfl
  · -- The loop comes to the last record, which uses up what is left without its descriptors.
    have hlast : last ∈ layout.streams := hstreams ▸ List.mem_concat_self
    have hitems : (front.map Stream.Layout.stream ++ [last.stream]).length ≤ 20 := by
      simpa [hstreams] using hroom
    have hfront : (front.map Stream.Layout.stream).length ≤ 20 := by
      rw [List.length_append, List.length_singleton] at hitems
      exact Nat.le_of_succ_le hitems
    have hstream := Stream.readsTo last (length_info_lt h hlast)
    have hrun : ReadsTo (streamLoop.run · last.stream.stride ⟨_, hfront⟩) _ _ :=
      streamLoop.readsTo_run hstream hitems
    refine ⟨layout.before front ++ Bits.write last.words, _, _, bytes_eq_before_append hstreams,
      length_before_append hstreams,
      hrun.behind (layout.before front) (decode_before_append h hstreams hfront), rfl, ?_⟩
    rw [hstreams, List.map_append]
    rfl

end Layout

/-- **A cut is noticed only before the last descriptors.** A PMT that has lost bytes is refused
exactly if they are not all of the checksum and of the descriptors that stand last, and otherwise it
decodes as if it were whole. -/
theorem lacks_take_bytes_iff (layout : Layout) (h : layout.sectionLength ≤ 4095)
    (hroom : layout.streams.length ≤ 20) (count : Nat) :
    (Lacks decode (layout.bytes.take count) ↔ count < layout.readEnd) ∧
      (layout.readEnd ≤ count → ∃ pmt, decode (layout.bytes.take count) = .ok pmt ∧
        pmt.header = layout.tableHeader ∧
        pmt.streams.items = layout.streams.map Stream.Layout.stream) := by
  obtain ⟨read, rest, pmt, hbytes, hlength, hread, hheader, hstreams⟩ :=
    Layout.exists_readsTo h hroom
  rw [hbytes, ← hlength]
  obtain ⟨hlacks, hfound⟩ := hread.lacks_take_iff (fun _ => stableAt_decode) rest count
  exact ⟨hlacks, fun hcount => ⟨pmt, hfound hcount, hheader, hstreams⟩⟩

/-- Of the PMT with one stream all is read but five bytes of descriptors and the checksum. -/
theorem lacks_take_bytes_iff_sample :
    (Layout.sample 1).sectionLength ≤ 4095 ∧ (Layout.sample 1).streams.length ≤ 20 ∧
      (Layout.sample 1).readEnd = 22 ∧ (Layout.sample 1).checksumStart = 27 ∧
      Lacks decode ((Layout.sample 1).bytes.take 21) ∧
      ∃ pmt, decode ((Layout.sample 1).bytes.take 22) = .ok pmt ∧
        pmt.header = (Layout.sample 1).tableHeader ∧ pmt.streams.items = [⟨0x1B, 0x101, 5⟩] :=
  have hlength : (Layout.sample 1).sectionLength ≤ 4095 := by decide
  have hroom : (Layout.sample 1).streams.length ≤ 20 := by decide
  ⟨hlength, hroom, by decide, by decide,
    (lacks_take_bytes_iff (.sample 1) hlength hroom 21).1.2 (by decide),
    (lacks_take_bytes_iff (.sample 1) hlength hroom 22).2 (by decide)⟩

/-- A PMT that has lost declared bytes can be accepted: those of the descriptors that stand last. -/
theorem not_always_lacks_take_bytes :
    ¬∀ (layout : Layout) (count : Nat), layout.sectionLength ≤ 4095 →
      layout.streams.length ≤ 20 → count < layout.checksumStart →
      Lacks decode (layout.bytes.take count) := by
  intro hall
  have hfound : decode ((Layout.sample 1).bytes.take 26) =
      .ok ⟨(Layout.sample 1).tableHeader, ⟨[⟨0x1B, 0x101, 5⟩], by decide⟩⟩ := by decide +kernel
  exact not_lacks_of_ok hfound (hall (.sample 1) 26 (by decide) (by decide) (by decide))

end Pmt

end DvbReceiver
