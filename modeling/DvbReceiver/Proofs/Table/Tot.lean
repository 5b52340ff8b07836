import DvbReceiver.Proofs.Table.Descriptors
import Mathlib.Algebra.BigOperators.Group.List.Basic

/-!
# Decoding a TOT

The descriptors of a TOT are looked for every 15 bytes, while the declared length of their loop is
used up by what each of them says about its own length. `Tot.Due` says which descriptors are
visited, and `Tot.descriptors_exact` says for every buffer which table it decodes to, or which
error: only a 21st descriptor is one too many, and whatever else can be wrong is that something is
missing.

`Tot.Layout` is a TOT as it is broadcast. A descriptor is found behind one that is as long as a
single offset entry, so every descriptor but the last has to be.

For the place of a descriptor and what is left of the loop do not go on together: descriptors that
are too short for the stride lead out of the loop. `Tot.descriptors_confined` says how far.
-/

namespace DvbReceiver.Tot

/-! ## Every buffer -/

/-- Where descriptor `i` is looked for. -/
def place (i : Nat) : Nat := headerSize + stride * i

/-- The declared length of the descriptor loop. -/
def loopLengthOf (buffer : Bytes) : Nat := Bits.field buffer 68 12

/-- What the descriptors before descriptor `i` use up of the loop length. -/
def usedBefore (buffer : Bytes) : (i : Nat) → Nat
  | 0 => 0
  | i + 1 => usedBefore buffer i + (Descriptor.lengthAt buffer (place i) + descriptorPrefix)

/-- Descriptor `i` is visited: those before it leave something of the loop length. -/
def Due (buffer : Bytes) (i : Nat) : Prop := usedBefore buffer i < loopLengthOf buffer

/-- What a buffer has to have so that it can be decoded as a TOT: the header, and all descriptors
that are visited, which are at most 20. -/
structure Complete (buffer : Bytes) : Prop where
  header : headerSize ≤ buffer.length
  descriptors : ∀ i, Due buffer i → i < 20 ∧ Descriptor.Present buffer (place i)

/-- A 21st descriptor is visited, and it is there with all before it. -/
structure Overfull (buffer : Bytes) : Prop where
  header : headerSize ≤ buffer.length
  due : Due buffer 20
  descriptors : ∀ i ≤ 20, Descriptor.Present buffer (place i)

/-- The table has the fields that stand in the buffer, and the descriptors that are visited. -/
structure Shows (tot : Tot) (buffer : Bytes) : Prop where
  header : tot.header = .ofBits buffer
  mjd : tot.mjd = Bits.field buffer 24 16
  hours : tot.hours = Bits.field buffer 40 8
  minutes : tot.minutes = Bits.field buffer 48 8
  seconds : tot.seconds = Bits.field buffer 56 8
  loopLength : tot.loopLength = loopLengthOf buffer
  visited : ∀ i, i < tot.descriptors.items.length ↔ Due buffer i
  descriptors : tot.descriptors.items =
    (List.range tot.descriptors.items.length).map fun i => Descriptor.ofBits buffer (place i)

/-- What a buffer decodes to, told from the buffer alone. -/
structure DecodesExactly (buffer : Bytes) : Prop where
  ok_iff : (∃ tot, decode buffer = .ok tot) ↔ Complete buffer
  shows : ∀ tot, decode buffer = .ok tot → tot.Shows buffer
  capacityExceeded_iff : decode buffer = .error (.capacityExceeded .tot 20) ↔ Overfull buffer
  error : ∀ error, decode buffer = .error error → error = .capacityExceeded .tot 20 ∨
    ∃ needed available, error = .truncated needed available

/-- The loop over the descriptors. -/
def descriptorLoop : RecordLoop Descriptor where
  table := .tot
  decode := Descriptor.decode
  stride _ := stride
  cost descriptor := descriptor.length + descriptorPrefix
  cost_pos _ := Nat.succ_pos _

theorem readDescriptors_eq_run : readDescriptors = descriptorLoop.run :=
  descriptorLoop.eq_run readDescriptors fun buffer declared read => by
    rw [readDescriptors]
    rfl

theorem due_iff {buffer : Bytes} {i : Nat} :
    Due buffer i ↔ loopLengthOf buffer - usedBefore buffer i ≠ 0 :=
  Nat.sub_ne_zero_iff_lt.symm

/-- The descriptors stand every 15 bytes, whatever their lengths are. -/
theorem grid (buffer : Bytes) :
    descriptorLoop.Grid (buffer.drop headerSize) stride
      (fun i => Descriptor.ofBits buffer (place i))
      (fun i => Descriptor.Present buffer (place i))
      (fun i => loopLengthOf buffer - usedBefore buffer i) where
  stride_eq _ := rfl
  left_succ i := by
    show loopLengthOf buffer - (usedBefore buffer i + _) = _
    rw [← Nat.sub_sub]
    rfl
  decode_of_present i h := by
    rw [List.drop_drop]
    exact Descriptor.decode_of_present h
  decode_of_not_present i h := by
    rw [List.drop_drop]
    exact Descriptor.decode_of_not_present h

/-- The descriptors behind the header of a buffer. -/
def decodeDescriptors (buffer : Bytes) : Except ParseError (BoundedList Descriptor 20) :=
  descriptorLoop.run (buffer.drop headerSize) (loopLengthOf buffer) .empty

theorem decode_of_short {buffer : Bytes} (h : buffer.length < headerSize) :
    decode buffer = .error (.truncated headerSize buffer.length) := by
  rw [decode, Bits.require_of_lt h, error_bind]

/-- Behind a header all is up to the descriptors. -/
theorem decode_eq_decodeDescriptors {buffer : Bytes} (h : headerSize ≤ buffer.length) :
    decode buffer = (decodeDescriptors buffer).map fun descriptors =>
      { header := .ofBits buffer
        mjd := Bits.field buffer 24 16
        hours := Bits.field buffer 40 8
        minutes := Bits.field buffer 48 8
        seconds := Bits.field buffer 56 8
        loopLength := loopLengthOf buffer
        descriptors } := by
  have hlength : 10 ≤ buffer.length := h
  unfold decode Bits.u16At Bits.u8At Bits.lowBits
  simp (disch := omega) only [Bits.require_of_le h, Bits.extract_of_le, ok_bind,
    ShortHeader.decode_of_le, readDescriptors_eq_run]
  rfl

theorem decodesExactly_of_short {buffer : Bytes} (h : buffer.length < headerSize) :
    DecodesExactly buffer where
  ok_iff := iff_of_false (by simp [decode_of_short h]) fun hcomplete =>
    Nat.not_lt.2 hcomplete.header h
  shows tot htot := by cases (decode_of_short h).symm.trans htot
  capacityExceeded_iff := iff_of_false (by simp [decode_of_short h]) fun hfull =>
    Nat.not_lt.2 hfull.header h
  error error herror := .inr ⟨_, _, Except.error.inj (herror.symm.trans (decode_of_short h))⟩

theorem decodesExactly (buffer : Bytes) : DecodesExactly buffer := by
  rcases Nat.lt_or_ge buffer.length headerSize with hshort | hheader
  · exact decodesExactly_of_short hshort
  have hok : (∃ list, decodeDescriptors buffer = .ok list) ↔ _ := (grid buffer).exists_run_eq_ok_iff
  have hfull : decodeDescriptors buffer = .error (.capacityExceeded .tot 20) ↔ _ :=
    (grid buffer).run_eq_full_iff
  simp only [← due_iff] at hok hfull
  have hdecode := decode_eq_decodeDescriptors hheader
  rcases hdescriptors : decodeDescriptors buffer with error | list <;> rw [hdescriptors] at hdecode
  · have hkind := (grid buffer).eq_full_or_truncated hdescriptors
    refine ⟨iff_of_false (by simp [hdecode, Except.map]) fun h => ?_, fun tot htot => ?_,
      ⟨fun h => ?_, fun h => ?_⟩, fun found hfound => ?_⟩
    · obtain ⟨list, hlist⟩ := hok.2 h.descriptors
      cases hdescriptors.symm.trans hlist
    · cases hdecode.symm.trans htot
    · cases hdecode.symm.trans h
      obtain ⟨hdue, hpresent⟩ := hfull.1 hdescriptors
      exact ⟨hheader, hdue, hpresent⟩
    · cases hdescriptors.symm.trans (hfull.2 ⟨h.due, h.descriptors⟩)
      exact hdecode
    · cases hdecode.symm.trans hfound
      exact hkind
  · obtain ⟨hvisited, hitems⟩ := (grid buffer).of_run_eq_ok hdescriptors
    refine ⟨iff_of_true ⟨_, hdecode⟩ ⟨hheader, hok.1 ⟨list, hdescriptors⟩⟩, fun tot htot => ?_,
      iff_of_false (by simp [hdecode, Except.map]) fun h => ?_, fun found hfound => ?_⟩
    · cases hdecode.symm.trans htot
      exact ⟨rfl, rfl, rfl, rfl, rfl, rfl, fun i => (hvisited i).trans due_iff.symm, hitems⟩
    · cases hdescriptors.symm.trans (hfull.2 ⟨h.due, h.descriptors⟩)
    · cases hdecode.symm.trans hfound

/-! ## As broadcast -/

/-- A TOT as it is broadcast. -/
structure Layout where
  sectionSyntaxIndicator : Bool
  reservedBeforeLength : BitVec 3
  mjd : BitVec 16
  hours : BitVec 8
  minutes : BitVec 8
  seconds : BitVec 8
  reservedBeforeLoop : BitVec 4
  descriptors : BoundedList Descriptor.Layout 20
  /-- Each descriptor but the last is as long as one offset entry. -/
  aligned : ∀ descriptor ∈ descriptors.items.dropLast,
    descriptor.body.length = LocalTimeOffset.size
  checksum : BitVec 32

namespace Layout

/-- The bytes of descriptors. -/
def descriptorsLength : List Descriptor.Layout → Nat
  | [] => 0
  | descriptor :: descriptors =>
    descriptor.body.length + descriptorPrefix + descriptorsLength descriptors

variable (layout : Layout)

/-- The declared length of the descriptor loop. -/
def loopLength : Nat := descriptorsLength layout.descriptors.items

/-- The words before the descriptors. The bytes behind the length field are the time, the loop with
its length, and the checksum. -/
def words : List Bits.Word :=
  [⟨8, 0x73⟩, ⟨1, .ofBool layout.sectionSyntaxIndicator⟩, ⟨3, layout.reservedBeforeLength⟩,
    ⟨12, .ofNat 12 (7 + layout.loopLength + 4)⟩, ⟨16, layout.mjd⟩, ⟨8, layout.hours⟩,
    ⟨8, layout.minutes⟩, ⟨8, layout.seconds⟩, ⟨4, layout.reservedBeforeLoop⟩,
    ⟨12, .ofNat 12 layout.loopLength⟩]

/-- The octets of the section. -/
def bytes : Bytes :=
  Bits.write layout.words ++
    (layout.descriptors.items.flatMap Descriptor.Layout.bytes ++ Bits.write [⟨32, layout.checksum⟩])

theorem length_flatMap_bytes (descriptors : List Descriptor.Layout) :
    (descriptors.flatMap Descriptor.Layout.bytes).length = descriptorsLength descriptors := by
  induction descriptors with
  | nil => rfl
  | cons descriptor descriptors ih =>
    rw [List.flatMap_cons, List.length_append, ih, descriptor.length_bytes]
    rfl

/-- Only the last descriptor can be longer than a single offset entry. -/
theorem descriptorsLength_le {descriptors : List Descriptor.Layout}
    (h : ∀ descriptor ∈ descriptors.dropLast, descriptor.body.length = LocalTimeOffset.size) :
    descriptorsLength descriptors ≤ 15 * descriptors.length + 242 := by
  induction descriptors with
  | nil => exact Nat.zero_le _
  | cons descriptor descriptors ih =>
    rw [descriptorsLength, descriptorPrefix, List.length_cons]
    rcases descriptors with _ | ⟨next, descriptors⟩
    · have hbody := descriptor.length_body_lt
      rw [descriptorsLength, List.length_nil]
      omega
    · obtain ⟨hfirst, hothers⟩ := List.forall_mem_cons.1 h
      have hrest := ih hothers
      rw [hfirst, LocalTimeOffset.size]
      omega

theorem loopLength_le : layout.loopLength ≤ 542 := by
  have hlength := descriptorsLength_le layout.aligned
  have hroom := layout.descriptors.length_le
  unfold loopLength
  omega

/-- The table that a reader is to find. -/
def table : Tot where
  header := ⟨0x73, layout.sectionSyntaxIndicator, 7 + layout.loopLength + 4⟩
  mjd := layout.mjd.toNat
  hours := layout.hours.toNat
  minutes := layout.minutes.toNat
  seconds := layout.seconds.toNat
  loopLength := layout.loopLength
  descriptors := ⟨layout.descriptors.items.map Descriptor.Layout.descriptor, by
    rw [List.length_map]
    exact layout.descriptors.length_le⟩

theorem offsets_table :
    layout.table.offsets = layout.descriptors.items.flatMap Descriptor.Layout.entries := by
  show (layout.descriptors.items.map Descriptor.Layout.descriptor).flatMap (·.entries.items) = _
  rw [List.flatMap_map]
  rfl

theorem totalWidth_words : Bits.totalWidth layout.words = 80 := by rfl

theorem length_write_words : (Bits.write layout.words).length = headerSize := by
  rw [Bits.length_write, totalWidth_words]
  rfl

/-- The words are found at their places in the section. -/
theorem field_bytes_append (trailing : Bytes) (i : Nat) (word : Bits.Word)
    (hword : layout.words[i]? = some word) :
    Bits.field (layout.bytes ++ trailing) (Bits.totalWidth (layout.words.take i)) word.width =
      word.value.toNat := by
  rw [bytes, List.append_assoc]
  exact Bits.field_write layout.words (by rw [totalWidth_words]) _ i word hword

theorem loopLengthOf_bytes_append (trailing : Bytes) :
    loopLengthOf (layout.bytes ++ trailing) = layout.loopLength :=
  (layout.field_bytes_append trailing 9 ⟨12, .ofNat 12 layout.loopLength⟩ rfl).trans
    (Nat.mod_eq_of_lt (by have := layout.loopLength_le; omega))

theorem decodeDescriptors_bytes_append (trailing : Bytes) :
    decodeDescriptors (layout.bytes ++ trailing) = .ok layout.table.descriptors := by
  obtain ⟨behind, hreads⟩ := descriptorLoop.exists_reads_of_written Descriptor.Layout.bytes
    Descriptor.Layout.descriptor layout.descriptors.items
    (Bits.write [⟨32, layout.checksum⟩] ++ trailing)
    (fun descriptor _ => descriptor.decode_bytes_append)
    (fun descriptor _ => descriptor.length_bytes.symm)
    (fun descriptor hmem => by rw [descriptor.length_bytes, layout.aligned descriptor hmem]; rfl)
  rw [length_flatMap_bytes] at hreads
  rw [decodeDescriptors, loopLengthOf_bytes_append, bytes, List.append_assoc,
    List.drop_left' layout.length_write_words, List.append_assoc]
  exact hreads.run_empty_eq_ok layout.table.descriptors.length_le

/-- **What is broadcast is what is decoded.** -/
theorem decode_bytes_append (trailing : Bytes) :
    decode (layout.bytes ++ trailing) = .ok layout.table := by
  have hheader : headerSize ≤ (layout.bytes ++ trailing).length := by
    rw [bytes, List.length_append, List.length_append, length_write_words]
    omega
  have hfield := layout.field_bytes_append trailing
  have htableId : Bits.field _ 0 8 = _ := hfield 0 ⟨8, 0x73⟩ rfl
  have hsyntax : Bits.field _ 8 1 = _ := hfield 1 ⟨1, .ofBool layout.sectionSyntaxIndicator⟩ rfl
  have hsection : Bits.field _ 12 12 = 7 + layout.loopLength + 4 :=
    (hfield 3 ⟨12, .ofNat 12 (7 + layout.loopLength + 4)⟩ rfl).trans
      (Nat.mod_eq_of_lt (by have := layout.loopLength_le; omega))
  have hmjd : Bits.field _ 24 16 = _ := hfield 4 ⟨16, layout.mjd⟩ rfl
  have hhours : Bits.field _ 40 8 = _ := hfield 5 ⟨8, layout.hours⟩ rfl
  have hminutes : Bits.field _ 48 8 = _ := hfield 6 ⟨8, layout.minutes⟩ rfl
  have hseconds : Bits.field _ 56 8 = _ := hfield 7 ⟨8, layout.seconds⟩ rfl
  rw [decode_eq_decodeDescriptors hheader, decodeDescriptors_bytes_append,
    loopLengthOf_bytes_append, hmjd, hhours, hminutes, hseconds, ShortHeader.ofBits, htableId,
    Bits.bit, hsyntax, hsection, Bits.ofBool_toNat_beq]
  rfl

/-- The octets of a TOT with a descriptor of another kind before one with a single entry. -/
example : bytes
    { sectionSyntaxIndicator := false, reservedBeforeLength := 7, mjd := 0xE7A1, hours := 0x12
      minutes := 0x34, seconds := 0x56, reservedBeforeLoop := 15
      descriptors := ⟨[.other 0x83 (.replicate 13 0x58) (by decide) (by decide),
        .offsets [⟨[0x53, 0x52, 0x42], rfl, 0, 1, false, 0x01, 0x00, 0xE7B0, 0x010000, 0x02, 0x00⟩]
          (by decide)], by decide⟩
      aligned := by simp [Descriptor.Layout.body, LocalTimeOffset.size]
      checksum := 0xDEADBEEF } =
    [0x73, 0x70, 0x29, 0xE7, 0xA1, 0x12, 0x34, 0x56, 0xF0, 0x1E] ++
      0x83 :: 0x0D :: .replicate 13 0x58 ++
      [0x58, 0x0D, 0x53, 0x52, 0x42, 0x02, 0x01, 0x00, 0xE7, 0xB0, 0x01, 0x00, 0x00, 0x02, 0x00] ++
      [0xDE, 0xAD, 0xBE, 0xEF] := by
  decide

end Layout

/-- **TOT decoding is exact.** Every buffer decodes to the table or to the error that its octets
stand for, and a TOT that is broadcast decodes to its descriptors and shows all their offsets in
order. -/
theorem descriptors_exact :
    (∀ buffer, DecodesExactly buffer) ∧
      ∀ (layout : Layout) (trailing : Bytes), decode (layout.bytes ++ trailing) = .ok layout.table ∧
        layout.table.descriptors.items =
          layout.descriptors.items.map Descriptor.Layout.descriptor ∧
        layout.table.offsets = layout.descriptors.items.flatMap Descriptor.Layout.entries :=
  ⟨decodesExactly, fun layout trailing =>
    ⟨layout.decode_bytes_append trailing, rfl, layout.offsets_table⟩⟩

/-! ## Descriptors and their loop -/

/-- What descriptors use up of the loop length. -/
def used (descriptors : List Descriptor) : Nat :=
  (descriptors.map fun descriptor => descriptor.length + descriptorPrefix).sum

/-- What descriptors are shorter than a single offset entry, in all. -/
def shortfall (descriptors : List Descriptor) : Nat :=
  (descriptors.map fun descriptor => LocalTimeOffset.size - descriptor.length).sum

/-- Where descriptor `i` of a table lies in the buffer that decodes to it. -/
structure Confined (tot : Tot) (buffer : Bytes) (i : Nat) (descriptor : Descriptor) : Prop where
  /-- The descriptors before it leave something of the declared loop. -/
  due : used (tot.descriptors.items.take i) < tot.loopLength
  /-- It begins in the loop, but for what the descriptors before it are too short. -/
  start_lt : stride * i < tot.loopLength + shortfall (tot.descriptors.items.take i)
  /-- So it does begin there if none of them is too short. -/
  start_lt_loopLength : (∀ earlier ∈ tot.descriptors.items.take i,
    LocalTimeOffset.size ≤ earlier.length) → stride * i < tot.loopLength
  /-- Its tag and its length are in the buffer. -/
  before : place i + descriptorPrefix ≤ buffer.length
  /-- If it has offsets, all of its declared bytes are. -/
  body : descriptor.tag = offsetTag →
    place i + descriptorPrefix + descriptor.length ≤ buffer.length

/-- The places of the descriptors run ahead of their lengths by no more than the shortfall. -/
theorem stride_mul_length_le (descriptors : List Descriptor) :
    stride * descriptors.length ≤ used descriptors + shortfall descriptors := by
  induction descriptors with
  | nil => exact Nat.zero_le _
  | cons descriptor descriptors ih =>
    simp only [used, shortfall, stride, descriptorPrefix, LocalTimeOffset.size, List.map_cons,
      List.sum_cons, List.length_cons] at ih ⊢
    omega

theorem shortfall_eq_zero {descriptors : List Descriptor}
    (h : ∀ descriptor ∈ descriptors, LocalTimeOffset.size ≤ descriptor.length) :
    shortfall descriptors = 0 :=
  List.sum_eq_zero fun _ hmem => by
    obtain ⟨descriptor, hdescriptor, rfl⟩ := List.mem_map.1 hmem
    exact Nat.sub_eq_zero_of_le (h descriptor hdescriptor)

theorem used_eq_usedBefore (buffer : Bytes) (i : Nat) :
    used ((List.range i).map fun k => Descriptor.ofBits buffer (place k)) =
      usedBefore buffer i := by
  induction i with
  | zero => rfl
  | succ i ih =>
    rw [used, List.map_map] at ih
    rw [used, usedBefore, List.map_map, List.range_succ, List.map_append, List.sum_append, ih]
    rfl

namespace Shows

variable {tot : Tot} {buffer : Bytes} {i : Nat} {descriptor : Descriptor}

theorem used_take (h : tot.Shows buffer) (hi : i ≤ tot.descriptors.items.length) :
    used (tot.descriptors.items.take i) = usedBefore buffer i := by
  rw [h.descriptors, ← List.map_take, List.take_range, Nat.min_eq_left hi, used_eq_usedBefore]

theorem confined (h : tot.Shows buffer) (hcomplete : Complete buffer)
    (hdescriptor : tot.descriptors.items[i]? = some descriptor) :
    tot.Confined buffer i descriptor := by
  obtain ⟨hi, hget⟩ := List.getElem?_eq_some_iff.1 hdescriptor
  have hdue := (h.visited i).1 hi
  have hpresent := (hcomplete.descriptors i hdue).2
  have hused : used (tot.descriptors.items.take i) < tot.loopLength := by
    rw [h.used_take (Nat.le_of_lt hi), h.loopLength]
    exact hdue
  have hplace := stride_mul_length_le (tot.descriptors.items.take i)
  rw [List.length_take_of_le (Nat.le_of_lt hi)] at hplace
  have hstart : stride * i < tot.loopLength + shortfall (tot.descriptors.items.take i) :=
    Nat.lt_of_le_of_lt hplace (Nat.add_lt_add_right hused _)
  obtain rfl : descriptor = .ofBits buffer (place i) := by
    rw [h.descriptors] at hdescriptor
    simpa [hi] using hdescriptor.symm
  refine ⟨hused, hstart, fun hlong => ?_, hpresent.before, hpresent.body⟩
  rwa [shortfall_eq_zero hlong] at hstart

end Shows

/-- **Every descriptor lies where the loop leads**: it is visited while those before it leave
something of the loop, and begins in the loop unless some of them are too short for the stride. What
of a descriptor is read is in the buffer, and a buffer in which it is not is refused. -/
theorem descriptors_confined :
    (∀ buffer tot, decode buffer = .ok tot → ∀ i descriptor,
      tot.descriptors.items[i]? = some descriptor → tot.Confined buffer i descriptor) ∧
    ∀ buffer i, i ≤ 20 → Due buffer i → ¬Descriptor.Present buffer (place i) →
      ∃ needed available, decode buffer = .error (.truncated needed available) := by
  constructor
  · intro buffer tot hdecode i descriptor hdescriptor
    have hexact := decodesExactly buffer
    exact (hexact.shows tot hdecode).confined (hexact.ok_iff.1 ⟨tot, hdecode⟩) hdescriptor
  · intro buffer i hi hdue hmissing
    have hexact := decodesExactly buffer
    rcases hdecode : decode buffer with error | tot
    · rcases hexact.error error hdecode with rfl | ⟨needed, available, rfl⟩
      · exact absurd ((hexact.capacityExceeded_iff.1 hdecode).descriptors i hi) hmissing
      · exact ⟨needed, available, rfl⟩
    · exact absurd ((hexact.ok_iff.1 ⟨tot, hdecode⟩).descriptors i hdue).2 hmissing

/-- A TOT section with two empty descriptors, a TDT section, and the first byte of another TOT. -/
def astray : Bytes :=
  [0x73, 0x70, 0x0F, 0xD7, 0x39, 0x12, 0x34, 0x56, 0xF0, 0x04, 0x83, 0x00, 0x83, 0x00, 0xDE, 0xAD,
    0xBE, 0xEF] ++ [0x70, 0x70, 0x05, 0xD7, 0x39, 0x12, 0x34, 0x30] ++ [0x73]

/-- What `astray` decodes to: its second descriptor is read where the TDT ends, and has the table id
of the other TOT for its length. -/
def astrayTot : Tot where
  header := ⟨0x73, false, 15⟩
  mjd := 0xD739
  hours := 0x12
  minutes := 0x34
  seconds := 0x56
  loopLength := 4
  descriptors := ⟨[⟨0x83, 0, .empty⟩, ⟨0x30, 0x73, .empty⟩], by decide⟩

theorem decode_astray : decode astray = .ok astrayTot := by decide +kernel

/-- The second descriptor is due, 11 bytes behind the loop and no more than 13, and without the byte
of the other TOT it is missed. -/
theorem descriptors_confined_astray :
    decode astray = .ok astrayTot ∧ astrayTot.Confined astray 1 ⟨0x30, 0x73, .empty⟩ ∧
      Due (astray.take 26) 1 ∧ ¬Descriptor.Present (astray.take 26) (place 1) ∧
      ∃ needed available, decode (astray.take 26) = .error (.truncated needed available) :=
  have hdue : Due (astray.take 26) 1 := by
    unfold Due
    decide +kernel
  have hmissing : ¬Descriptor.Present (astray.take 26) (place 1) := fun h =>
    absurd h.before (by decide)
  ⟨decode_astray, descriptors_confined.1 astray astrayTot decode_astray 1 _ rfl, hdue, hmissing,
    descriptors_confined.2 (astray.take 26) 1 (by decide) hdue hmissing⟩

/-- Descriptors that are too short for the stride lead out of the loop, into what comes behind, and
not all that they declare need be in the buffer. Neither holds of the second one of `astray`. -/
theorem not_always_confined :
    (¬∀ (buffer : Bytes) (tot : Tot), decode buffer = .ok tot → ∀ i descriptor,
      tot.descriptors.items[i]? = some descriptor → stride * i < tot.loopLength) ∧
    ¬∀ (buffer : Bytes) (tot : Tot), decode buffer = .ok tot → ∀ i descriptor,
      tot.descriptors.items[i]? = some descriptor →
        place i + descriptorPrefix + descriptor.length ≤ buffer.length := by
  constructor
  · intro hstarts
    have hsecond := hstarts astray astrayTot decode_astray 1 _ rfl
    exact absurd hsecond (by decide)
  · intro hends
    have hsecond := hends astray astrayTot decode_astray 1 _ rfl
    exact absurd hsecond (by decide)

end DvbReceiver.Tot
