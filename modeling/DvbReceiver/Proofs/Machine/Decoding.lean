import DvbReceiver.Table
import DvbReceiver.Proofs.Machine.Operations
import DvbReceiver.Proofs.Table.Pat
import DvbReceiver.Proofs.Table.Pmt
import DvbReceiver.Proofs.Table.Tot

/-!
# Decoding on a machine

The decoders of the four tables, written down with what a machine has to do for them: places and
counters are addresses, octets are cut out of the buffer one by one, and each number is kept in the
bits that its field of the table has. On every machine and for every buffer they are equal to the
decoders themselves (`Machine.table_eq`), so that no section is a fault.

The loops keep running places. A place is never further on than the count that ends the loop
(`Machine.records_eq`), or is bounded by the number of records read (`Machine.descriptors_eq`).
-/

namespace DvbReceiver.Machine

open Checked

variable {α : Type} (machine : Machine) (buffer : Bytes)

/-! ## Headers -/

/-- Reads a short header. -/
def shortHeader : Checked ShortHeader := do
  return {
    tableId := ← machine.u8At buffer 0
    sectionSyntaxIndicator := ← machine.flag buffer 8
    sectionLength := ← machine.lowBits buffer 1 12 }

/-- Reads a long header with the expected table id. -/
def longHeader (expected : Nat) : Checked LongHeader := do
  let found ← machine.u8At buffer 0
  if found ≠ expected then throw (.wrongTableId expected found) else
    safely (Bits.require buffer 8)
    return {
      toShortHeader := ← machine.shortHeader buffer
      tableIdExtension := ← machine.u16At buffer 3
      versionNumber := ← narrow 8 (machine.extract buffer 42 5)
      currentNextIndicator := ← machine.flag buffer 47
      sectionNumber := ← machine.u8At buffer 6
      lastSectionNumber := ← machine.u8At buffer 7 }

variable {machine buffer}

theorem shortHeader_eq : machine.shortHeader buffer = safely (ShortHeader.decode buffer) := by
  unfold shortHeader ShortHeader.decode
  simp (disch := decide) only [u8At_eq, flag_eq, lowBits_eq, safely_pure, safely_bind]

theorem longHeader_eq {expected : Nat} :
    machine.longHeader buffer expected = safely (LongHeader.decode expected buffer) := by
  rw [longHeader, LongHeader.decode, u8At_eq (by decide)]
  refine safely_bind_congr fun found _ => ?_
  split
  · rfl
  · simp (disch := decide) only [shortHeader_eq, u8At_eq, u16At_eq, flag_eq, extract_eq,
      narrow_extract, safely_pure, safely_bind]

/-! ## Records one behind the other -/

variable (machine) in
/-- Reads records from `position` on until `parsed` comes to the declared length, behind those of
`read`. -/
def records (loop : RecordLoop α) (decode : Bytes → Checked α) (buffer : Bytes)
    (declared position parsed : Nat) (read : BoundedList α 20) : Checked (BoundedList α 20) :=
  if declared ≤ parsed then return read else do
    let record ← decode (buffer.drop position)
    machine.address (loop.stride record)
    let read ← safely (read.push loop.table record)
    machine.address (position + loop.stride record)
    machine.address (parsed + loop.cost record)
    records loop decode buffer declared (position + loop.stride record) (parsed + loop.cost record)
      read
termination_by declared - parsed
decreasing_by
  have := loop.cost_pos record
  omega

/-- **The place in the buffer keeps within its bits**, because it never gets ahead of the count that
ends the loop. -/
theorem records_eq {loop : RecordLoop α} {decode : Bytes → Checked α}
    (hdecode : ∀ buffer, decode buffer = safely (loop.decode buffer))
    (hcost : ∀ buffer record, loop.decode buffer = .ok record →
      loop.stride record = loop.cost record ∧ loop.cost record < 2 ^ 16)
    {declared position parsed : Nat} (hdeclared : declared < 2 ^ 16) (hposition : position ≤ parsed)
    (read : BoundedList α 20) :
    machine.records loop decode buffer declared position parsed read =
      safely (loop.run (buffer.drop position) (declared - parsed) read) := by
  induction position, parsed, read using records.induct loop declared with
  | case1 position parsed read hdone =>
    rw [records, if_pos hdone, Nat.sub_eq_zero_of_le hdone, RecordLoop.run_zero]
    rfl
  | case2 position parsed read hleft ih =>
    rw [records, if_neg hleft, RecordLoop.run, if_neg (by omega), hdecode]
    refine safely_bind_congr fun record hrecord => ?_
    obtain ⟨hstride, hlt⟩ := hcost _ record hrecord
    -- As long as the loop goes on, the place is at most the count, and that is below the length.
    rw [address_of_lt (by omega), lift_ok_bind]
    refine safely_bind_congr fun pushed _ => ?_
    rw [address_of_lt (by omega), lift_ok_bind, address_of_lt (by omega), lift_ok_bind,
      ih record pushed (by omega), List.drop_drop, Nat.sub_sub]

/-! ## Programmes and streams -/

variable (machine buffer)

/-- Reads one service record. -/
def service : Checked Pat.Service := do
  return {
    programNumber := ← machine.u16At buffer 0
    pid := ← machine.lowBits buffer 2 13 }

/-- Reads a PAT section. The header and the checksum are parsed without the bytes that the section
length does not count. -/
def pat : Checked Pat := do
  let header ← machine.longHeader buffer TableKind.pat.tableId
  let parsed ← lessen (Pat.headerSize + Pat.checksumSize) Section.uncounted
  let services ← machine.records Pat.serviceLoop machine.service buffer header.sectionLength
    Pat.headerSize parsed .empty
  return { header, services }

/-- Reads the header of a PMT section. -/
def pmtHeader : Checked Pmt.Header := do
  return {
    toLongHeader := ← machine.longHeader buffer TableKind.pmt.tableId
    pcrPid := ← machine.lowBits buffer 8 13
    programInfoLength := ← machine.lowBits buffer 10 12 }

/-- Reads one stream record. -/
def stream : Checked Pmt.Stream := do
  return {
    streamType := ← machine.u8At buffer 0
    pid := ← machine.lowBits buffer 1 13
    infoLength := ← machine.lowBits buffer 3 12 }

/-- Reads a PMT section. -/
def pmt : Checked Pmt := do
  let header ← machine.pmtHeader buffer
  machine.address (Pmt.headerSize + header.programInfoLength)
  machine.address (Pmt.headerSize + header.programInfoLength + Pat.checksumSize)
  let parsed ← lessen (Pmt.headerSize + header.programInfoLength + Pat.checksumSize)
    Section.uncounted
  let streams ← machine.records Pmt.streamLoop machine.stream buffer header.sectionLength
    (Pmt.headerSize + header.programInfoLength) parsed .empty
  return { header, streams }

variable {machine buffer}

theorem service_eq : machine.service buffer = safely (Pat.Service.decode buffer) := by
  unfold service Pat.Service.decode
  simp (disch := decide) only [u16At_eq, lowBits_eq, safely_pure, safely_bind]

theorem pat_eq : machine.pat buffer = safely (Pat.decode buffer) := by
  rw [pat, Pat.decode, longHeader_eq]
  refine safely_bind_congr fun header hheader => ?_
  have hlength := LongHeader.sectionLength_lt_of_decode hheader
  have hparsed : lessen (Pat.headerSize + Pat.checksumSize) Section.uncounted = .ok Pat.overhead :=
    lessen_of_le (by decide)
  rw [hparsed, lift_ok_bind, Pat.readServices_eq_run,
    records_eq (fun _ => service_eq) (fun _ _ _ => ⟨rfl, (by decide : Pat.serviceSize < 2 ^ 16)⟩)
      (by omega) (by decide)]
  simp only [safely_pure, safely_bind]

theorem pmtHeader_eq : machine.pmtHeader buffer = safely (Pmt.Header.decode buffer) := by
  unfold pmtHeader Pmt.Header.decode
  simp (disch := decide) only [longHeader_eq, lowBits_eq, safely_pure, safely_bind]

theorem stream_eq : machine.stream buffer = safely (Pmt.Stream.decode buffer) := by
  unfold stream Pmt.Stream.decode
  simp (disch := decide) only [u8At_eq, lowBits_eq, safely_pure, safely_bind]

theorem cost_streamLoop (buffer : Bytes) (record : Pmt.Stream)
    (h : Pmt.streamLoop.decode buffer = .ok record) :
    Pmt.streamLoop.stride record = Pmt.streamLoop.cost record ∧
      Pmt.streamLoop.cost record < 2 ^ 16 := by
  have hinfo : record.infoLength < 4096 := Pmt.Stream.infoLength_lt_of_decode h
  refine ⟨rfl, ?_⟩
  change 5 + record.infoLength < 2 ^ 16
  omega

theorem pmt_eq : machine.pmt buffer = safely (Pmt.decode buffer) := by
  rw [pmt, Pmt.decode, pmtHeader_eq]
  refine safely_bind_congr fun header hheader => ?_
  obtain ⟨hlength, hinfo⟩ := Pmt.Header.lengths_lt_of_decode hheader
  have hfirst : Pmt.headerSize + header.programInfoLength + Pat.checksumSize < 4112 := by
    unfold Pmt.headerSize Pat.checksumSize
    omega
  have hparsed : lessen (Pmt.headerSize + header.programInfoLength + Pat.checksumSize)
      Section.uncounted = .ok (Pmt.overhead + header.programInfoLength) := by
    unfold Pmt.headerSize Pat.checksumSize Section.uncounted Pmt.overhead
    rw [lessen_of_le (by omega)]
    congr 1
    omega
  rw [address_of_lt (by omega), lift_ok_bind, address_of_lt (by omega), lift_ok_bind, hparsed,
    lift_ok_bind, Pmt.readStreams_eq_run,
    records_eq (fun _ => stream_eq) cost_streamLoop (by omega) (Nat.add_le_add_right (by decide) _)]
  simp only [safely_pure, safely_bind]

/-! ## Times -/

variable (machine buffer)

/-- The number of two packed decimal digits at a byte offset, in eight bits. -/
def decimalAt (offset : Nat) : Checked Nat := do
  let octet ← machine.u8At buffer offset
  check 8 (10 * (octet / 16))
  check 8 (10 * (octet / 16) + octet % 16)
  return packedDecimal octet

/-- Reads a TDT section. -/
def tdt : Checked Tdt := do
  safely (Bits.require buffer Tdt.size)
  return {
    header := ← machine.shortHeader buffer
    mjd := ← machine.u16At buffer 3
    hours := ← machine.decimalAt buffer 5
    minutes := ← machine.decimalAt buffer 6
    seconds := ← machine.decimalAt buffer 7 }

variable {machine buffer}

/-- **Even digits above 9 make a number of eight bits.** -/
theorem decimalAt_eq {offset : Nat} (h : offset < 2 ^ 16) :
    machine.decimalAt buffer offset =
      safely (Bits.u8At buffer offset >>= fun octet => pure (packedDecimal octet)) := by
  rw [decimalAt, u8At_eq h]
  refine safely_bind_congr fun octet hoctet => ?_
  have hlt : octet < 256 := Bits.lt_of_extract hoctet
  rw [check_of_lt (by omega), lift_ok_bind, check_of_lt (by omega), lift_ok_bind, safely_pure]

theorem tdt_eq : machine.tdt buffer = safely (Tdt.decode buffer) := by
  unfold tdt Tdt.decode
  simp (disch := decide) only [shortHeader_eq, u16At_eq, decimalAt_eq, safely_pure, safely_bind,
    bind_assoc, pure_bind]

/-! ## Offsets -/

variable (machine buffer)

/-- Reads the entry that the buffer starts with. Region and polarity are bits of one octet. -/
def localTimeOffset : Checked LocalTimeOffset := do
  safely (Bits.require buffer LocalTimeOffset.size)
  let flags ← machine.u8At buffer 3
  return {
    countryCode := [← buffer.octetAt 0, ← buffer.octetAt 1, ← buffer.octetAt 2]
    region := flags / 4
    polarity := if flags % 2 = 0 then .ahead else .behind
    hours := ← machine.decimalAt buffer 4
    minutes := ← machine.decimalAt buffer 5
    changeMjd := ← machine.u16At buffer 6
    changeTime := ← machine.extract buffer 64 24
    nextHours := ← machine.decimalAt buffer 11
    nextMinutes := ← machine.decimalAt buffer 12 }

/-- Reads the entries of an offset descriptor's body, behind those of `read`. -/
def entries (body : Bytes) (read : BoundedList LocalTimeOffset 20) :
    Checked (BoundedList LocalTimeOffset 20) :=
  if body.length < LocalTimeOffset.size then return read else do
    let entry ← machine.localTimeOffset (body.take LocalTimeOffset.size)
    let read ← safely (read.push .tot entry)
    entries (body.drop LocalTimeOffset.size) read
termination_by body.length
decreasing_by simp_all only [LocalTimeOffset.size, List.length_drop]; omega

/-- Reads the descriptor that the buffer starts with. -/
def descriptor : Checked Tot.Descriptor := do
  let tag ← machine.u8At buffer 0
  let length ← machine.u8At buffer 1
  if tag = Tot.offsetTag then
    let body := buffer.drop Tot.descriptorPrefix
    safely (Bits.require body length)
    let declared ← Bytes.slice body 0 length
    return { tag, length, entries := ← machine.entries declared .empty }
  else
    return { tag, length, entries := .empty }

/-- Reads descriptors from the one with the given index on until they use up `remaining`, behind
those of `read`. -/
def descriptors (remaining index : Nat) (read : BoundedList Tot.Descriptor 20) :
    Checked (BoundedList Tot.Descriptor 20) :=
  if remaining = 0 then return read else do
    machine.address (Tot.stride * index)
    machine.address (Tot.headerSize + Tot.stride * index)
    let descriptor ← machine.descriptor (buffer.drop (Tot.headerSize + Tot.stride * index))
    machine.address (descriptor.length + Tot.descriptorPrefix)
    let read ← safely (read.push .tot descriptor)
    machine.address (index + 1)
    descriptors (remaining - (descriptor.length + Tot.descriptorPrefix)) (index + 1) read
termination_by remaining
decreasing_by simp only [Tot.descriptorPrefix]; omega

/-- Reads a TOT section. -/
def tot : Checked Tot := do
  safely (Bits.require buffer Tot.headerSize)
  let lengthField ← machine.u16At buffer 8
  let descriptors ← machine.descriptors buffer (lengthField % 2 ^ 12) 0 .empty
  return {
    header := ← machine.shortHeader buffer
    mjd := ← machine.u16At buffer 3
    hours := ← machine.u8At buffer 5
    minutes := ← machine.u8At buffer 6
    seconds := ← machine.u8At buffer 7
    loopLength := lengthField % 2 ^ 12
    descriptors }

variable {machine buffer}

/-- The polarity is the last bit of the octet that it shares with the region. -/
theorem polarity_eq :
    (if Bits.field buffer 24 8 % 2 = 0 then Polarity.ahead else .behind) =
      if Bits.bit buffer 31 then .behind else .ahead := by
  have hlow : Bits.field buffer 24 8 % 2 = Bits.field buffer 31 1 := Bits.field_mod buffer 24 7 1
  have hlt : Bits.field buffer 31 1 < 2 := Bits.field_lt buffer 31 1
  rw [hlow, Bits.bit]
  by_cases hzero : Bits.field buffer 31 1 = 0
  · simp [hzero]
  · have hone : Bits.field buffer 31 1 = 1 := by omega
    simp [hone]

theorem localTimeOffset_eq :
    machine.localTimeOffset buffer = safely (LocalTimeOffset.decode buffer) := by
  rcases Nat.lt_or_ge buffer.length LocalTimeOffset.size with hlt | hge
  · rw [localTimeOffset, LocalTimeOffset.decode_of_lt hlt, Bits.require_of_lt hlt]
    rfl
  · have hlength : 13 ≤ buffer.length := hge
    have hcountry : [buffer[0], buffer[1], buffer[2]] = buffer.take 3 := by
      rw [List.take_succ_eq_append_getElem (by omega), List.take_succ_eq_append_getElem (by omega),
        List.take_succ_eq_append_getElem (by omega)]
      rfl
    have hregion : Bits.field buffer 24 8 / 4 = Bits.field buffer 24 6 :=
      Bits.field_div buffer 24 6 2 (by omega)
    rw [localTimeOffset, LocalTimeOffset.decode_of_le hge, Bits.require_of_le hge, safely_ok_bind]
    simp (disch := omega) only [u8At_eq, u16At_eq, decimalAt_eq, extract_eq, Bits.u8At, Bits.u16At,
      Bits.extract_of_le, Bytes.octetAt_of_lt, ok_bind, safely_ok_bind, lift_ok_bind, safely_pure]
    rw [hcountry, hregion, polarity_eq]
    rfl

theorem entries_eq (body : Bytes) (read : BoundedList LocalTimeOffset 20) :
    machine.entries body read = safely (Tot.readEntries body read) := by
  induction body, read using Tot.readEntries.induct with
  | case1 body read hshort =>
    rw [entries, Tot.readEntries, if_pos hshort, if_pos hshort]
    rfl
  | case2 body read hlong ih =>
    rw [entries, Tot.readEntries, if_neg hlong, if_neg hlong]
    simp only [localTimeOffset_eq, ih, safely_bind]

theorem descriptor_eq : machine.descriptor buffer = safely (Tot.Descriptor.decode buffer) := by
  rw [descriptor, Tot.Descriptor.decode, u8At_eq (by decide), u8At_eq (by decide)]
  refine safely_bind_congr fun tag _ => safely_bind_congr fun length _ => ?_
  split
  · refine safely_bind_congr fun _ hrequire => ?_
    rw [Bytes.slice_of_le (Nat.zero_le length) (Bits.le_of_require hrequire), lift_ok_bind,
      List.drop_zero, entries_eq]
    simp only [safely_pure, safely_bind]
  · rfl

/-- **The place in the buffer keeps within its bits**, because the list of descriptors is full
before that. -/
theorem descriptors_eq {remaining index : Nat} {read : BoundedList Tot.Descriptor 20}
    (h : read.items.length = index) :
    machine.descriptors buffer remaining index read =
      safely (Tot.readDescriptors (buffer.drop (Tot.headerSize + Tot.stride * index)) remaining
        read) := by
  induction remaining, index, read using descriptors.induct with
  | case1 index read =>
    rw [descriptors, Tot.readDescriptors, if_pos rfl, if_pos rfl]
    rfl
  | case2 remaining index read hleft ih =>
    have hindex : index ≤ 20 := h ▸ read.length_le
    have hplace : Tot.headerSize + Tot.stride * index < 2 ^ 32 := by
      unfold Tot.headerSize Tot.stride
      omega
    rw [descriptors, Tot.readDescriptors, if_neg hleft, if_neg hleft, address_of_lt (by omega),
      lift_ok_bind, address_of_lt hplace, lift_ok_bind, descriptor_eq]
    refine safely_bind_congr fun descriptor hdescriptor => ?_
    have hlength := Tot.Descriptor.length_lt_of_decode hdescriptor
    have hprefix : Tot.descriptorPrefix = 2 := rfl
    rw [address_of_lt (by omega), lift_ok_bind]
    refine safely_bind_congr fun pushed hpush => ?_
    have hitems : pushed.items.length = index + 1 := by
      rw [BoundedList.items_of_push hpush, List.length_append, h, List.length_singleton]
    rw [address_of_lt (by omega), lift_ok_bind, ih descriptor pushed hitems, List.drop_drop,
      Nat.add_assoc, ← Nat.mul_succ]

theorem tot_eq : machine.tot buffer = safely (Tot.decode buffer) := by
  rw [tot, Tot.decode]
  refine safely_bind_congr fun _ hrequire => ?_
  have hlength : 10 ≤ buffer.length := Bits.le_of_require hrequire
  have hempty : (.empty : BoundedList Tot.Descriptor 20).items.length = 0 := rfl
  have hlow : Bits.field buffer 64 16 % 2 ^ 12 = Bits.field buffer 68 12 :=
    Bits.field_mod buffer 64 4 12
  rw [u16At_eq (by decide), Bits.u16At, Bits.extract_of_le (by decide) (by decide) (by omega),
    safely_ok_bind, Bits.lowBits, Bits.extract_of_le (by decide) (by decide) (by omega), ok_bind,
    hlow, descriptors_eq hempty]
  simp (disch := decide) only [shortHeader_eq, u8At_eq, u16At_eq, safely_pure, safely_bind]
  rfl

/-! ## Tables -/

variable (machine buffer)

/-- Reads a section as a table of the given kind. -/
def table : TableKind → Checked Table
  | .pat => .pat <$> machine.pat buffer
  | .pmt => .pmt <$> machine.pmt buffer
  | .tdt => .tdt <$> machine.tdt buffer
  | .tot => .tot <$> machine.tot buffer

variable {machine buffer}

/-- **No section is a fault**: on every machine a section is decoded, or rejected with an error, as
the decoder of its kind says. -/
theorem table_eq (kind : TableKind) :
    machine.table buffer kind = safely (Table.decode kind buffer) := by
  cases kind <;> simp only [table, Table.decode, pat_eq, pmt_eq, tdt_eq, tot_eq, safely_map]

end DvbReceiver.Machine
