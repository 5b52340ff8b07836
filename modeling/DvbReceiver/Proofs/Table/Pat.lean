import DvbReceiver.Section.Split
import DvbReceiver.Table.Pat
import DvbReceiver.Proofs.Section.Header
import DvbReceiver.Proofs.Table.Records

/-!
# Decoding a PAT

The section length fixes how many service records there are. `Pat.services_exact` says for every
buffer which table or which error it decodes to: the services are the records at their places, all
of them and no more, and the errors are told apart by what the buffer has.

`Pat.Layout` is a PAT as it is broadcast, and its services are what decoding yields.

The records are read up to the declared length, checksum or not: `Pat.endsBeforeChecksum_iff` says
when the last of them takes bytes of the checksum.
-/

namespace DvbReceiver.Pat

/-- The service record at a byte offset. -/
def Service.ofBits (buffer : Bytes) (start : Nat) : Service where
  programNumber := Bits.field buffer (8 * start) 16
  pid := Bits.field buffer (8 * (start + 2) + 3) 13

theorem Service.ofBits_drop {buffer : Bytes} {start : Nat} (h : start + 4 ≤ buffer.length) :
    ofBits (buffer.drop start) 0 = ofBits buffer start := by
  unfold ofBits
  rw [Bits.field_drop _ _ (by omega), Bits.field_drop _ _ (by omega)]
  congr 2

theorem Service.decode_of_le {buffer : Bytes} (h : serviceSize ≤ buffer.length) :
    decode buffer = .ok (ofBits buffer 0) := by
  have hlength : 4 ≤ buffer.length := h
  rw [decode, Bits.u16At, Bits.lowBits, Bits.extract_of_le (by decide) (by decide) (by omega),
    Bits.extract_of_le (by decide) (by decide) (by omega)]
  rfl

theorem Service.decode_of_lt {buffer : Bytes} (h : buffer.length < serviceSize) :
    ∃ needed, decode buffer = .error (.truncated needed buffer.length) := by
  have hlength : buffer.length < 4 := h
  rw [decode, Bits.u16At, Bits.lowBits]
  rcases Nat.lt_or_ge buffer.length 2 with hlt | hge
  · rw [Bits.extract_of_lt (by decide) (by decide) (by omega)]
    exact ⟨_, rfl⟩
  · rw [Bits.extract_of_le (by decide) (by decide) (by omega),
      Bits.extract_of_lt (by decide) (by decide) (by omega)]
    exact ⟨_, rfl⟩

/-- The loop over the services. -/
def serviceLoop : RecordLoop Service where
  table := .pat
  decode := Service.decode
  stride _ := serviceSize
  cost _ := serviceSize
  cost_pos _ := by decide

theorem readServices_eq_run : readServices = serviceLoop.run :=
  serviceLoop.eq_run readServices fun buffer declared read => by
    rw [readServices]
    rfl

/-! ## Every buffer -/

/-- How many service records a section of the given length has. -/
def serviceRecords (sectionLength : Nat) : Nat :=
  if sectionLength ≤ overhead then 0 else (sectionLength - overhead + 3) / serviceSize

theorem lt_serviceRecords_iff {sectionLength i : Nat} :
    i < serviceRecords sectionLength ↔ sectionLength - overhead - serviceSize * i ≠ 0 := by
  unfold serviceRecords overhead serviceSize
  split <;> omega

/-- What a buffer has to have so that it can be decoded as a PAT: the header, the table id, and all
the declared services, which are at most 20. -/
structure Complete (buffer : Bytes) : Prop where
  header : headerSize ≤ buffer.length
  tableId : buffer.head? = some 0x00
  room : serviceRecords (LongHeader.ofBits buffer).sectionLength ≤ 20
  services : headerSize + serviceSize * serviceRecords (LongHeader.ofBits buffer).sectionLength ≤
    buffer.length

/-- The table has the fields that stand in the buffer. -/
structure Shows (pat : Pat) (buffer : Bytes) : Prop where
  header : pat.header = .ofBits buffer
  services : pat.services.items =
    (List.range (serviceRecords (LongHeader.ofBits buffer).sectionLength)).map fun i =>
      Service.ofBits buffer (headerSize + serviceSize * i)

/-- The buffer has another table id, whatever else it has. -/
def Foreign (buffer : Bytes) : Prop := ∃ octet, buffer.head? = some octet ∧ octet ≠ 0x00

/-- The buffer declares more services than a PAT may have, and has the first one too many. -/
structure Overfull (buffer : Bytes) : Prop where
  tableId : buffer.head? = some 0x00
  services : 20 < serviceRecords (LongHeader.ofBits buffer).sectionLength
  first : headerSize + serviceSize * 21 ≤ buffer.length

/-- What a buffer decodes to, told from the buffer alone. -/
structure DecodesExactly (buffer : Bytes) : Prop where
  ok_iff : (∃ pat, decode buffer = .ok pat) ↔ Complete buffer
  shows : ∀ pat, decode buffer = .ok pat → pat.Shows buffer
  wrongTableId_iff : ∀ expected found, decode buffer = .error (.wrongTableId expected found) ↔
    Foreign buffer ∧ expected = 0x00 ∧ buffer.head?.map (·.toNat) = some found
  capacityExceeded_iff : ∀ table capacity,
    decode buffer = .error (.capacityExceeded table capacity) ↔
      Overfull buffer ∧ table = .pat ∧ capacity = 20
  truncated : ¬Complete buffer → ¬Foreign buffer → ¬Overfull buffer →
    ∃ needed available, decode buffer = .error (.truncated needed available)

/-- The services stand one behind the other. -/
theorem grid (buffer : Bytes) (declared : Nat) :
    serviceLoop.Grid (buffer.drop headerSize) serviceSize
      (fun i => Service.ofBits buffer (headerSize + serviceSize * i))
      (fun i => headerSize + serviceSize * (i + 1) ≤ buffer.length)
      (fun i => declared - serviceSize * i) where
  stride_eq _ := rfl
  left_succ i := by
    show declared - serviceSize * (i + 1) = declared - serviceSize * i - serviceSize
    rw [Nat.mul_succ, Nat.sub_sub]
  decode_of_present i h := by
    rw [Nat.mul_succ, ← Nat.add_assoc] at h
    rw [List.drop_drop, ← Service.ofBits_drop h]
    exact Service.decode_of_le (by rw [List.length_drop]; omega)
  decode_of_not_present i h := by
    have hsize : serviceSize = 4 := rfl
    rw [Nat.mul_succ, ← Nat.add_assoc, Nat.not_le] at h
    rw [List.drop_drop]
    obtain ⟨needed, herror⟩ := Service.decode_of_lt
      (show (buffer.drop (headerSize + serviceSize * i)).length < serviceSize by
        rw [List.length_drop]
        omega)
    exact ⟨needed, _, herror⟩

/-- There is room for the services that are due, and they are all there. -/
theorem forall_due_iff {buffer : Bytes} (sectionLength : Nat)
    (hheader : headerSize ≤ buffer.length) :
    (∀ i, sectionLength - overhead - serviceSize * i ≠ 0 → i < 20 ∧
        headerSize + serviceSize * (i + 1) ≤ buffer.length) ↔
      serviceRecords sectionLength ≤ 20 ∧
        headerSize + serviceSize * serviceRecords sectionLength ≤ buffer.length := by
  simp only [← lt_serviceRecords_iff]
  constructor
  · intro h
    refine ⟨Nat.not_lt.1 fun hlt => Nat.lt_irrefl 20 (h 20 hlt).1, ?_⟩
    rcases hcount : serviceRecords sectionLength with _ | count
    · exact hheader
    · exact (h count (by omega)).2
  · rintro ⟨hroom, hservices⟩ i hi
    exact ⟨by omega, Nat.le_trans (Nat.add_le_add_left (Nat.mul_le_mul_left _ hi) _) hservices⟩

theorem not_foreign_of_head? {buffer : Bytes} (h : buffer.head? = some 0x00) : ¬Foreign buffer := by
  rintro ⟨octet, hhead, hoctet⟩
  exact hoctet (Option.some.inj (hhead.symm.trans h))

theorem Complete.not_overfull {buffer : Bytes} (h : Complete buffer) : ¬Overfull buffer :=
  fun hfull => Nat.not_lt.2 h.room hfull.services

theorem decode_of_foreign {octet : UInt8} (bytes : Bytes) (h : octet ≠ 0x00) :
    decode (octet :: bytes) = .error (.wrongTableId 0x00 octet.toNat) := by
  have hne : octet.toNat ≠ TableKind.pat.tableId := fun heq => h (UInt8.toNat_inj.1 heq)
  rw [decode, LongHeader.decode_eq, if_neg (by simp), Bits.field_cons, if_pos hne]
  rfl

theorem decode_of_short {octet : UInt8} {bytes : Bytes} (htableId : octet = 0x00)
    (h : (octet :: bytes).length < 8) :
    decode (octet :: bytes) = .error (.truncated 8 (octet :: bytes).length) := by
  subst htableId
  rw [decode, LongHeader.decode_eq, if_neg (by simp), Bits.field_cons, if_neg (by decide), if_pos h]
  rfl

section Services

variable {buffer : Bytes}

/-- The services behind the header of a buffer. -/
def decodeServices (buffer : Bytes) : Except ParseError (BoundedList Service 20) :=
  serviceLoop.run (buffer.drop headerSize) ((LongHeader.ofBits buffer).sectionLength - overhead)
    .empty

theorem decode_eq_decodeServices (hheader : headerSize ≤ buffer.length)
    (htableId : buffer.head? = some 0x00) :
    decode buffer = (decodeServices buffer).map (⟨LongHeader.ofBits buffer, ·⟩) := by
  have hlong : LongHeader.decode TableKind.pat.tableId buffer = .ok (.ofBits buffer) :=
    LongHeader.decode_of_le hheader htableId rfl
  rw [decode, hlong, ok_bind, readServices_eq_run]
  rfl

theorem exists_decodeServices_eq_ok_iff (hheader : headerSize ≤ buffer.length) :
    (∃ list, decodeServices buffer = .ok list) ↔
      serviceRecords (LongHeader.ofBits buffer).sectionLength ≤ 20 ∧
        headerSize + serviceSize * serviceRecords (LongHeader.ofBits buffer).sectionLength ≤
          buffer.length :=
  (grid buffer _).exists_run_eq_ok_iff.trans (forall_due_iff _ hheader)

theorem items_of_decodeServices_eq_ok {list : BoundedList Service 20}
    (h : decodeServices buffer = .ok list) :
    list.items = (List.range (serviceRecords (LongHeader.ofBits buffer).sectionLength)).map fun i =>
      Service.ofBits buffer (headerSize + serviceSize * i) := by
  obtain ⟨hdue, hitems⟩ := (grid buffer _).of_run_eq_ok h
  have hcount : list.items.length = serviceRecords (LongHeader.ofBits buffer).sectionLength :=
    eq_of_forall_lt_iff fun i => (hdue i).trans lt_serviceRecords_iff.symm
  rwa [hcount] at hitems

theorem decodeServices_eq_full_iff :
    decodeServices buffer = .error (.capacityExceeded .pat 20) ↔
      20 < serviceRecords (LongHeader.ofBits buffer).sectionLength ∧
        headerSize + serviceSize * 21 ≤ buffer.length := by
  refine (grid buffer _).run_eq_full_iff.trans ?_
  simp only [lt_serviceRecords_iff]
  refine and_congr_right fun _ => ⟨fun h => h 20 (Nat.le_refl _), fun h i hi => ?_⟩
  exact Nat.le_trans (Nat.add_le_add_left (Nat.mul_le_mul_left _ (Nat.succ_le_succ hi)) _) h

theorem eq_full_or_truncated {error : ParseError} (h : decodeServices buffer = .error error) :
    error = .capacityExceeded .pat 20 ∨ ∃ needed available, error = .truncated needed available :=
  (grid buffer _).eq_full_or_truncated h

end Services

/-- How a buffer decodes: one of four cases, each told from the buffer. -/
theorem cases_decode (buffer : Bytes) :
    (Complete buffer ∧ ∃ pat, decode buffer = .ok pat ∧ pat.Shows buffer) ∨
    (Foreign buffer ∧ ∃ octet, buffer.head? = some octet ∧
      decode buffer = .error (.wrongTableId 0x00 octet.toNat)) ∨
    (Overfull buffer ∧ decode buffer = .error (.capacityExceeded .pat 20)) ∨
    (¬Complete buffer ∧ ¬Foreign buffer ∧ ¬Overfull buffer ∧
      ∃ needed available, decode buffer = .error (.truncated needed available)) := by
  rcases buffer with _ | ⟨octet, bytes⟩
  · refine .inr (.inr (.inr ⟨fun h => ?_, ?_, fun h => ?_, 1, 0, rfl⟩))
    · exact absurd h.header (by decide)
    · rintro ⟨octet, hhead, -⟩
      cases hhead
    · exact absurd h.first (by decide)
  by_cases htableId : octet = 0x00
  swap
  · exact .inr (.inl ⟨⟨octet, rfl, htableId⟩, octet, rfl, decode_of_foreign bytes htableId⟩)
  have hhead : (octet :: bytes).head? = some 0x00 := congrArg some htableId
  have hforeign := not_foreign_of_head? hhead
  rcases Nat.lt_or_ge (octet :: bytes).length headerSize with hshort | hheader
  · refine .inr (.inr (.inr ⟨fun h => ?_, hforeign, fun h => ?_, _, _,
      decode_of_short htableId hshort⟩))
    · exact Nat.not_lt.2 h.header hshort
    · exact Nat.not_lt.2 (Nat.le_trans (Nat.le_add_right _ _) h.first) hshort
  -- Behind the header of a PAT the ends of the loop are the three cases that are left.
  generalize octet :: bytes = buffer at hhead hheader hforeign ⊢
  rw [decode_eq_decodeServices hheader hhead]
  have hok := exists_decodeServices_eq_ok_iff hheader
  have hfull : decodeServices buffer = _ ↔ _ := decodeServices_eq_full_iff
  rcases hservices : decodeServices buffer with error | list
  · rcases eq_full_or_truncated hservices with rfl | ⟨needed, available, rfl⟩
    · obtain ⟨hrecords, hfirst⟩ := hfull.1 hservices
      exact .inr (.inr (.inl ⟨⟨hhead, hrecords, hfirst⟩, rfl⟩))
    · refine .inr (.inr (.inr ⟨fun h => ?_, hforeign, fun h => ?_, needed, available, rfl⟩))
      · obtain ⟨list, hlist⟩ := hok.2 ⟨h.room, h.services⟩
        cases hservices.symm.trans hlist
      · cases hservices.symm.trans (hfull.2 ⟨h.services, h.first⟩)
  · obtain ⟨hroom, hthere⟩ := hok.1 ⟨list, hservices⟩
    have hitems := items_of_decodeServices_eq_ok hservices
    exact .inl ⟨⟨hheader, hhead, hroom, hthere⟩, _, rfl, rfl, hitems⟩

theorem decodesExactly (buffer : Bytes) : DecodesExactly buffer := by
  rcases cases_decode buffer with ⟨hcomplete, pat, hdecode, hshows⟩ |
    ⟨hforeign, octet, hhead, hdecode⟩ | ⟨hoverfull, hdecode⟩ |
    ⟨hcomplete, hforeign, hoverfull, needed, available, hdecode⟩
  · refine ⟨iff_of_true ⟨pat, hdecode⟩ hcomplete, fun other hother => ?_, fun _ _ => ?_,
      fun _ _ => ?_, fun hnot => absurd hcomplete hnot⟩
    · cases hdecode.symm.trans hother
      exact hshows
    · exact iff_of_false (by simp [hdecode]) fun h =>
        not_foreign_of_head? hcomplete.tableId h.1
    · exact iff_of_false (by simp [hdecode]) fun h => hcomplete.not_overfull h.1
  · refine ⟨iff_of_false (by simp [hdecode]) fun h =>
        not_foreign_of_head? h.tableId hforeign, by simp [hdecode],
      fun expected found => ?_, fun _ _ => ?_, fun _ hnot => absurd hforeign hnot⟩
    · simp [hdecode, hhead, hforeign, eq_comm]
    · exact iff_of_false (by simp [hdecode]) fun h =>
        not_foreign_of_head? h.1.tableId hforeign
  · refine ⟨iff_of_false (by simp [hdecode]) fun h => h.not_overfull hoverfull, by simp [hdecode],
      fun _ _ => ?_, fun table capacity => ?_, fun _ _ hnot => absurd hoverfull hnot⟩
    · exact iff_of_false (by simp [hdecode]) fun h =>
        not_foreign_of_head? hoverfull.tableId h.1
    · simp [hdecode, hoverfull, eq_comm]
  · refine ⟨iff_of_false (by simp [hdecode]) hcomplete, by simp [hdecode], fun _ _ => ?_,
      fun _ _ => ?_, fun _ _ _ => ⟨needed, available, hdecode⟩⟩
    · exact iff_of_false (by simp [hdecode]) fun h => hforeign h.1
    · exact iff_of_false (by simp [hdecode]) fun h => hoverfull h.1

/-! ## As broadcast -/

/-- A service record as it is broadcast. -/
structure Service.Layout where
  programNumber : BitVec 16
  reserved : BitVec 3
  pid : BitVec 13

namespace Service.Layout

def words (layout : Layout) : List Bits.Word :=
  [⟨16, layout.programNumber⟩, ⟨3, layout.reserved⟩, ⟨13, layout.pid⟩]

def bytes (layout : Layout) : Bytes := Bits.write layout.words

def service (layout : Layout) : Service := ⟨layout.programNumber.toNat, layout.pid.toNat⟩

theorem totalWidth_words (layout : Layout) : Bits.totalWidth layout.words = 32 := by rfl

theorem length_bytes (layout : Layout) : layout.bytes.length = serviceSize := by
  rw [bytes, Bits.length_write, totalWidth_words]
  rfl

theorem decode_bytes (layout : Layout) (rest : Bytes) :
    Service.decode (layout.bytes ++ rest) = .ok layout.service := by
  have hfield := Bits.field_write layout.words (by rw [totalWidth_words]) rest
  have hnumber : Bits.field (layout.bytes ++ rest) 0 16 = _ :=
    hfield 0 ⟨16, layout.programNumber⟩ rfl
  have hpid : Bits.field (layout.bytes ++ rest) 19 13 = _ := hfield 2 ⟨13, layout.pid⟩ rfl
  rw [Service.decode_of_le, Service.ofBits, hnumber, hpid]
  · rfl
  · rw [List.length_append, length_bytes]
    exact Nat.le_add_right _ _

end Service.Layout

/-- A PAT as it is broadcast. -/
structure Layout where
  header : LongHeader.Layout
  services : BoundedList Service.Layout 20
  checksum : BitVec 32

namespace Layout

variable (layout : Layout)

/-- The bytes behind the length field. -/
def sectionLength : BitVec 12 := .ofNat 12 (overhead + serviceSize * layout.services.items.length)

/-- The octets of the section. -/
def bytes : Bytes :=
  Bits.write (layout.header.words 0x00 layout.sectionLength) ++
    (layout.services.items.flatMap Service.Layout.bytes ++ Bits.write [⟨32, layout.checksum⟩])

/-- 20 services fit well into what the length field can say. -/
theorem toNat_sectionLength :
    layout.sectionLength.toNat =
      overhead + (layout.services.items.flatMap Service.Layout.bytes).length := by
  have hlength := layout.services.length_le
  rw [Bytes.length_flatMap_of_length_eq Service.Layout.length_bytes, sectionLength,
    BitVec.toNat_ofNat, overhead, serviceSize]
  exact Nat.mod_eq_of_lt (by omega)

/-- **What is broadcast is what is decoded**: every service, in order. -/
theorem decode_bytes_append (trailing : Bytes) :
    ∃ pat, decode (layout.bytes ++ trailing) = .ok pat ∧
      pat.header = layout.header.header 0x00 layout.sectionLength ∧
      pat.services.items = layout.services.items.map Service.Layout.service := by
  obtain ⟨behind, hreads⟩ := serviceLoop.exists_reads_of_written Service.Layout.bytes
    Service.Layout.service layout.services.items (Bits.write [⟨32, layout.checksum⟩] ++ trailing)
    (fun service _ => service.decode_bytes) (fun service _ => service.length_bytes.symm)
    (fun service _ => service.length_bytes.symm)
  have hroom : (layout.services.items.map Service.Layout.service).length ≤ 20 := by
    rw [List.length_map]
    exact layout.services.length_le
  have hheader := layout.header.decode_write_words 0x00 layout.sectionLength
    (show (0x00 : BitVec 8).toNat = TableKind.pat.tableId from rfl)
  have hlength : (layout.header.header 0x00 layout.sectionLength).sectionLength - overhead =
      (layout.services.items.flatMap Service.Layout.bytes).length := by
    show layout.sectionLength.toNat - overhead = _
    rw [toNat_sectionLength, Nat.add_sub_cancel_left]
  have hdrop (rest : Bytes) :
      (Bits.write (layout.header.words 0x00 layout.sectionLength) ++ rest).drop headerSize = rest :=
    List.drop_left' (layout.header.length_write_words _ _)
  refine ⟨⟨layout.header.header 0x00 layout.sectionLength, ⟨_, hroom⟩⟩, ?_, rfl, rfl⟩
  rw [decode, bytes, List.append_assoc, hheader, ok_bind, hlength, readServices_eq_run, hdrop,
    List.append_assoc, hreads.run_empty_eq_ok hroom]
  rfl

/-- The octets of a PAT with one service. -/
example : bytes ⟨⟨true, 3, 0x1234, 3, 5, true, 0, 0⟩, ⟨[⟨1, 7, 0x100⟩], by decide⟩, 0xDEADBEEF⟩ =
    [0x00, 0xB0, 0x0D, 0x12, 0x34, 0xCB, 0x00, 0x00, 0x00, 0x01, 0xE1, 0x00, 0xDE, 0xAD, 0xBE,
      0xEF] := by
  decide

end Layout

/-- **PAT decoding is exact.** Every buffer decodes to the table or to the error that its octets
stand for, and a PAT that is broadcast decodes to its services, all of them and in order. -/
theorem services_exact :
    (∀ buffer, DecodesExactly buffer) ∧
      ∀ (layout : Layout) (trailing : Bytes), ∃ pat, decode (layout.bytes ++ trailing) = .ok pat ∧
        pat.header = layout.header.header 0x00 layout.sectionLength ∧
        pat.services.items = layout.services.items.map Service.Layout.service :=
  ⟨decodesExactly, Layout.decode_bytes_append⟩

/-! ## Services and the checksum -/

/-- The bytes of the checksum, which are the last of the section. -/
def checksumSize : Nat := 4

/-- The record of service `i` lies before the checksum. -/
def EndsBeforeChecksum (pat : Pat) (i : Nat) : Prop :=
  headerSize + serviceSize * (i + 1) ≤
    Section.uncounted + pat.header.sectionLength - checksumSize

theorem length_services_of_decode {buffer : Bytes} {pat : Pat} (h : decode buffer = .ok pat) :
    pat.services.items.length = serviceRecords pat.header.sectionLength := by
  have hshows := (decodesExactly buffer).shows pat h
  rw [hshows.header, hshows.services, List.length_map, List.length_range]

/-- **The checksum is kept out of the services** exactly if whole records fill the section up to it.
Otherwise the last record takes up to three bytes of the checksum, and no other takes any. -/
theorem endsBeforeChecksum_iff {buffer : Bytes} {pat : Pat} (h : decode buffer = .ok pat) :
    ((∀ i < pat.services.items.length, pat.EndsBeforeChecksum i) ↔
      (pat.header.sectionLength - overhead) % serviceSize = 0) ∧
    (∀ i, i + 1 < pat.services.items.length → pat.EndsBeforeChecksum i) ∧
    ∀ i < pat.services.items.length,
      headerSize + serviceSize * (i + 1) < Section.uncounted + pat.header.sectionLength := by
  rw [length_services_of_decode h]
  simp only [lt_serviceRecords_iff, EndsBeforeChecksum, overhead, serviceSize, headerSize,
    checksumSize, Section.uncounted]
  generalize pat.header.sectionLength = sectionLength
  refine ⟨⟨fun hall => ?_, fun hwhole i hi => ?_⟩, fun i hi => ?_, fun i hi => ?_⟩
  · -- A record that is not whole before the checksum is read all the same.
    by_contra hrest
    have hlast := hall ((sectionLength - 9) / 4) (by omega)
    omega
  all_goals omega

/-- A PAT section with one service and a byte between it and the checksum `0x12345678`. -/
def strayByte : Bytes :=
  [0x00, 0xB0, 0x0E, 0x00, 0x01, 0xC1, 0x00, 0x00, 0x00, 0x01, 0xE1, 0x00, 0xAA, 0x12, 0x34, 0x56,
    0x78]

/-- What `strayByte` decodes to: its second service is read from the stray byte and the checksum. -/
def strayPat : Pat where
  header := ⟨⟨0x00, true, 14⟩, 1, 0, true, 0, 0⟩
  services := ⟨[⟨1, 0x100⟩, ⟨0xAA12, 0x1456⟩], by decide⟩

theorem decode_strayByte : decode strayByte = .ok strayPat := by decide +kernel

theorem endsBeforeChecksum_iff_strayByte :
    decode strayByte = .ok strayPat ∧
      ((∀ i < strayPat.services.items.length, strayPat.EndsBeforeChecksum i) ↔
        (strayPat.header.sectionLength - overhead) % serviceSize = 0) ∧
      (∀ i, i + 1 < strayPat.services.items.length → strayPat.EndsBeforeChecksum i) ∧
      ∀ i < strayPat.services.items.length,
        headerSize + serviceSize * (i + 1) < Section.uncounted + strayPat.header.sectionLength :=
  ⟨decode_strayByte, endsBeforeChecksum_iff decode_strayByte⟩

/-- A PAT whose records do not come out even has a service made of its checksum. -/
theorem not_always_endsBeforeChecksum :
    ¬∀ (buffer : Bytes) (pat : Pat), decode buffer = .ok pat →
      ∀ i < pat.services.items.length, pat.EndsBeforeChecksum i := by
  intro hall
  have hsecond := hall strayByte strayPat decode_strayByte 1 (by decide)
  have hlate : ¬strayPat.EndsBeforeChecksum 1 := by
    unfold EndsBeforeChecksum
    decide
  exact hlate hsecond

end DvbReceiver.Pat
