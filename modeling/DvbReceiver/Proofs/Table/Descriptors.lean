import DvbReceiver.Table.Tot
import DvbReceiver.Proofs.Section.Header
import DvbReceiver.Proofs.Table.Records

/-!
# Decoding local time offset descriptors

`LocalTimeOffset.ofBits` and `Tot.Descriptor.ofBits` are the entry and the descriptor whose fields
stand at a place in a buffer. A descriptor is decoded exactly if it is all there, and then to what
stands there (`Tot.Descriptor.decode_of_present`, `Tot.Descriptor.decode_of_not_present`); the
entries of one descriptor never fill the list that they go to.

The `Layout`s are entries and descriptors as they are broadcast.
-/

namespace DvbReceiver

/-! ## Entries -/

namespace LocalTimeOffset

/-- The entry at a byte offset. -/
def ofBits (buffer : Bytes) (start : Nat) : LocalTimeOffset where
  countryCode := (buffer.drop start).take 3
  region := Bits.field buffer (8 * start + 24) 6
  polarity := if Bits.bit buffer (8 * start + 31) then .behind else .ahead
  hours := packedDecimal (Bits.field buffer (8 * start + 32) 8)
  minutes := packedDecimal (Bits.field buffer (8 * start + 40) 8)
  changeMjd := Bits.field buffer (8 * start + 48) 16
  changeTime := Bits.field buffer (8 * start + 64) 24
  nextHours := packedDecimal (Bits.field buffer (8 * start + 88) 8)
  nextMinutes := packedDecimal (Bits.field buffer (8 * start + 96) 8)

theorem ofBits_drop {buffer : Bytes} {front start : Nat}
    (h : front + start + size ≤ buffer.length) :
    ofBits (buffer.drop front) start = ofBits buffer (front + start) := by
  have hfits : front + start + 13 ≤ buffer.length := h
  unfold ofBits Bits.bit
  simp (disch := omega) only [Bits.field_drop, List.drop_drop]
  simp only [Nat.mul_add, Nat.add_assoc]

theorem ofBits_take {buffer : Bytes} {count start : Nat} (h : start + size ≤ count)
    (hcount : count ≤ buffer.length) : ofBits (buffer.take count) start = ofBits buffer start := by
  have hfits : start + 13 ≤ count := h
  unfold ofBits Bits.bit
  simp (disch := omega) only [Bits.field_take, List.drop_take, List.take_take, Nat.min_eq_left]

theorem decode_of_le {buffer : Bytes} (h : size ≤ buffer.length) :
    decode buffer = .ok (ofBits buffer 0) := by
  have hlength : 13 ≤ buffer.length := h
  unfold decode Bits.u8At Bits.u16At
  simp (disch := omega) only [Bits.require_of_le h, Bits.extract_of_le, Bits.flag_of_le, ok_bind]
  rfl

theorem decode_of_lt {buffer : Bytes} (h : buffer.length < size) :
    decode buffer = .error (.truncated size buffer.length) := by
  rw [decode, Bits.require_of_lt h, error_bind]

/-- The loop over the entries of a descriptor. -/
def entryLoop : RecordLoop LocalTimeOffset where
  table := .tot
  decode buffer := decode (buffer.take size)
  stride _ := size
  cost _ := size
  cost_pos _ := by decide

/-- The loop stops before the bytes that do not fill an entry. -/
theorem readEntries_eq_run (body : Bytes) (read : BoundedList LocalTimeOffset 20) :
    Tot.readEntries body read = entryLoop.run body (size * (body.length / size)) read := by
  induction body, read using Tot.readEntries.induct with
  | case1 body read hshort =>
    rw [Tot.readEntries, if_pos hshort, Nat.div_eq_of_lt hshort, Nat.mul_zero, RecordLoop.run_zero]
  | case2 body read hlong ih =>
    have hlength : size ≤ body.length := Nat.not_lt.1 hlong
    have hdeclared : size * (body.length / size) ≠ 0 :=
      Nat.mul_ne_zero (by decide) (Nat.div_pos hlength (by decide)).ne'
    have hleft : size * ((body.drop size).length / size) = size * (body.length / size) - size := by
      rw [List.length_drop, Nat.div_eq_sub_div (by decide) hlength, Nat.mul_succ,
        Nat.add_sub_cancel]
    rw [Tot.readEntries, RecordLoop.run, if_neg hlong, if_neg hdeclared]
    simp only [ih, hleft]
    rfl

theorem grid (body : Bytes) (declared : Nat) :
    entryLoop.Grid body size (fun k => ofBits body (size * k))
      (fun k => size * (k + 1) ≤ body.length) (fun k => declared - size * k) where
  stride_eq _ := rfl
  left_succ k := by
    show declared - size * (k + 1) = declared - size * k - size
    rw [Nat.mul_succ, Nat.sub_sub]
  decode_of_present k h := by
    rw [Nat.mul_succ] at h
    have hlength : size ≤ (body.drop (size * k)).length := by
      rw [List.length_drop]
      omega
    have htake : ((body.drop (size * k)).take size).length = size := List.length_take_of_le hlength
    show decode ((body.drop (size * k)).take size) = _
    rw [decode_of_le htake.ge, ofBits_take (Nat.zero_add size).le hlength, ofBits_drop h]
    rfl
  decode_of_not_present k h := by
    rw [Nat.mul_succ, Nat.not_le] at h
    have hlength : ((body.drop (size * k)).take size).length < size := by
      have hsize : size = 13 := rfl
      rw [List.length_take, List.length_drop]
      omega
    exact ⟨_, _, decode_of_lt hlength⟩

/-- The length of a body is an octet, so its entries fit on the list. -/
theorem div_size_lt {length : Nat} (h : length < 256) : length / size < 20 := by
  show length / 13 < 20
  omega

/-- **A body holds as many entries as fill it**, and they are never too many for the list. -/
theorem readEntries_eq_ok {body : Bytes} (h : body.length < 256) :
    ∃ entries : BoundedList LocalTimeOffset 20, Tot.readEntries body .empty = .ok entries ∧
      entries.items = (List.range (body.length / size)).map fun k => ofBits body (size * k) := by
  have hgrid := grid body (size * (body.length / size))
  have hdue (k : Nat) : size * (body.length / size) - size * k ≠ 0 ↔ k < body.length / size := by
    rw [Nat.sub_ne_zero_iff_lt, Nat.mul_lt_mul_left (by decide)]
  obtain ⟨entries, hrun⟩ : ∃ entries : BoundedList LocalTimeOffset 20, _ = Except.ok entries :=
    hgrid.exists_run_eq_ok_iff.2 fun k hk => by
      have hk : k + 1 ≤ body.length / size := (hdue k).1 hk
      have hfew := div_size_lt h
      exact ⟨by omega, (Nat.mul_le_mul_left size hk).trans (Nat.mul_div_le body.length size)⟩
  obtain ⟨hlength, hitems⟩ := hgrid.of_run_eq_ok hrun
  have hcount : entries.items.length = body.length / size :=
    eq_of_forall_lt_iff fun k => (hlength k).trans (hdue k)
  rw [hcount] at hitems
  exact ⟨entries, (readEntries_eq_run body .empty).trans hrun, hitems⟩

end LocalTimeOffset

/-! ## Descriptors -/

namespace Tot.Descriptor

/-- The tag of the descriptor at a byte offset. -/
def tagAt (buffer : Bytes) (start : Nat) : Nat := Bits.field buffer (8 * start) 8

/-- The declared length of the descriptor at a byte offset. -/
def lengthAt (buffer : Bytes) (start : Nat) : Nat := Bits.field buffer (8 * start + 8) 8

theorem lengthAt_lt (buffer : Bytes) (start : Nat) : lengthAt buffer start < 256 :=
  Bits.field_lt _ _ _

/-- The entries of the descriptor at a byte offset: as many as fill its length, if the tag is that
of offset descriptors, and otherwise none. -/
def entriesAt (buffer : Bytes) (start : Nat) : List LocalTimeOffset :=
  if tagAt buffer start = offsetTag then
    (List.range (lengthAt buffer start / LocalTimeOffset.size)).map fun k =>
      LocalTimeOffset.ofBits buffer (start + descriptorPrefix + LocalTimeOffset.size * k)
  else []

theorem length_entriesAt_le (buffer : Bytes) (start : Nat) :
    (entriesAt buffer start).length ≤ 20 := by
  unfold entriesAt
  split
  · rw [List.length_map, List.length_range]
    exact (LocalTimeOffset.div_size_lt (lengthAt_lt buffer start)).le
  · exact Nat.zero_le _

/-- The descriptor at a byte offset. -/
def ofBits (buffer : Bytes) (start : Nat) : Descriptor where
  tag := tagAt buffer start
  length := lengthAt buffer start
  entries := ⟨entriesAt buffer start, length_entriesAt_le buffer start⟩

/-- The descriptor at a byte offset is all there: its tag and its length, and if it is an offset
descriptor its body too. -/
structure Present (buffer : Bytes) (start : Nat) : Prop where
  before : start + descriptorPrefix ≤ buffer.length
  body : tagAt buffer start = offsetTag →
    start + descriptorPrefix + lengthAt buffer start ≤ buffer.length

variable {buffer : Bytes} {start : Nat}

/-- The tag and the length decide how a descriptor is decoded. -/
theorem decode_drop (h : start + descriptorPrefix ≤ buffer.length) :
    decode (buffer.drop start) =
      if tagAt buffer start = offsetTag then do
        Bits.require (buffer.drop (start + descriptorPrefix)) (lengthAt buffer start)
        return ⟨tagAt buffer start, lengthAt buffer start,
          ← readEntries ((buffer.drop (start + descriptorPrefix)).take (lengthAt buffer start))
            .empty⟩
      else .ok ⟨tagAt buffer start, lengthAt buffer start, .empty⟩ := by
  have hfits : start + 2 ≤ buffer.length := h
  have hlength := List.length_drop (i := start) (l := buffer)
  unfold decode Bits.u8At
  simp (disch := omega) only [Bits.extract_of_le, Bits.field_drop, ok_bind, List.drop_drop]
  rfl

theorem entries_ofBits_of_ne (h : tagAt buffer start ≠ offsetTag) :
    (ofBits buffer start).entries = .empty :=
  BoundedList.eq_of_items (if_neg h)

/-- The entries of a body are those that stand in the whole buffer behind the length. -/
theorem readEntries_of_present (h : Present buffer start) (htag : tagAt buffer start = offsetTag) :
    readEntries ((buffer.drop (start + descriptorPrefix)).take (lengthAt buffer start)) .empty =
      .ok (ofBits buffer start).entries := by
  have hbody := h.body htag
  have hlong : lengthAt buffer start ≤ (buffer.drop (start + descriptorPrefix)).length := by
    rw [List.length_drop]
    omega
  have htake := List.length_take_of_le hlong
  obtain ⟨entries, hentries, hitems⟩ := LocalTimeOffset.readEntries_eq_ok
    (htake.trans_lt (lengthAt_lt buffer start))
  rw [hentries]
  refine congrArg Except.ok (BoundedList.eq_of_items (hitems.trans ?_))
  show _ = entriesAt buffer start
  rw [htake, entriesAt, if_pos htag]
  refine List.map_congr_left fun k hk => ?_
  have hfits : LocalTimeOffset.size * k + LocalTimeOffset.size ≤ lengthAt buffer start :=
    (Nat.mul_le_mul_left LocalTimeOffset.size (List.mem_range.1 hk)).trans (Nat.mul_div_le _ _)
  rw [LocalTimeOffset.ofBits_take hfits hlong, LocalTimeOffset.ofBits_drop (by omega)]

theorem decode_of_present (h : Present buffer start) :
    decode (buffer.drop start) = .ok (ofBits buffer start) := by
  rw [decode_drop h.before]
  split
  · next htag =>
    have hlong : lengthAt buffer start ≤ (buffer.drop (start + descriptorPrefix)).length := by
      have hbody := h.body htag
      rw [List.length_drop]
      omega
    rw [Bits.require_of_le hlong, ok_bind, readEntries_of_present h htag]
    rfl
  · next htag =>
    rw [← entries_ofBits_of_ne htag]
    rfl

theorem decode_of_not_present (h : ¬Present buffer start) :
    ∃ needed available, decode (buffer.drop start) = .error (.truncated needed available) := by
  have hlength := List.length_drop (i := start) (l := buffer)
  rcases Nat.lt_or_ge buffer.length (start + descriptorPrefix) with hlt | hge
  · -- The tag or the length is missing.
    have hshort : buffer.length < start + 2 := hlt
    unfold decode Bits.u8At
    rcases Nat.lt_or_ge (buffer.drop start).length 1 with hnone | hone
    · rw [Bits.extract_of_lt (by decide) (by decide) (by omega)]
      exact ⟨_, _, rfl⟩
    · rw [Bits.extract_of_le (by decide) (by decide) (by omega),
        Bits.extract_of_lt (by decide) (by decide) (by omega)]
      exact ⟨_, _, rfl⟩
  · -- The body of an offset descriptor is missing.
    obtain ⟨htag, hbody⟩ : tagAt buffer start = offsetTag ∧
        ¬start + descriptorPrefix + lengthAt buffer start ≤ buffer.length := by
      by_contra hnot
      exact h ⟨hge, fun htag => not_not.1 fun hbody => hnot ⟨htag, hbody⟩⟩
    have hshort : (buffer.drop (start + descriptorPrefix)).length < lengthAt buffer start := by
      rw [List.length_drop]
      omega
    rw [decode_drop hge, if_pos htag, Bits.require_of_lt hshort]
    exact ⟨_, _, rfl⟩

end Tot.Descriptor

/-! ## As broadcast -/

/-- An entry as it is broadcast. -/
structure LocalTimeOffset.Layout where
  countryCode : Bytes
  length_countryCode : countryCode.length = 3
  region : BitVec 6
  reserved : BitVec 1
  /-- The local time is behind UTC. -/
  behind : Bool
  hours : BitVec 8
  minutes : BitVec 8
  changeMjd : BitVec 16
  changeTime : BitVec 24
  nextHours : BitVec 8
  nextMinutes : BitVec 8

namespace LocalTimeOffset.Layout

variable (layout : Layout)

/-- The words behind the country code. -/
def words : List Bits.Word :=
  [⟨6, layout.region⟩, ⟨1, layout.reserved⟩, ⟨1, .ofBool layout.behind⟩, ⟨8, layout.hours⟩,
    ⟨8, layout.minutes⟩, ⟨16, layout.changeMjd⟩, ⟨24, layout.changeTime⟩, ⟨8, layout.nextHours⟩,
    ⟨8, layout.nextMinutes⟩]

def bytes : Bytes := layout.countryCode ++ Bits.write layout.words

/-- The entry that a reader is to find. -/
def offset : LocalTimeOffset where
  countryCode := layout.countryCode
  region := layout.region.toNat
  polarity := if layout.behind then .behind else .ahead
  hours := packedDecimal layout.hours.toNat
  minutes := packedDecimal layout.minutes.toNat
  changeMjd := layout.changeMjd.toNat
  changeTime := layout.changeTime.toNat
  nextHours := packedDecimal layout.nextHours.toNat
  nextMinutes := packedDecimal layout.nextMinutes.toNat

theorem totalWidth_words : Bits.totalWidth layout.words = 80 := by rfl

theorem length_bytes : layout.bytes.length = size := by
  rw [bytes, List.length_append, layout.length_countryCode, Bits.length_write, totalWidth_words]
  rfl

theorem ofBits_bytes_append (rest : Bytes) : ofBits (layout.bytes ++ rest) 0 = layout.offset := by
  have hcountry : ((layout.bytes ++ rest).drop 0).take 3 = layout.countryCode := by
    rw [bytes, List.drop_zero, List.append_assoc]
    exact List.take_left' layout.length_countryCode
  have hfield := Bits.field_append_write layout.countryCode layout.words
    (by rw [totalWidth_words]) rest
  rw [layout.length_countryCode, ← List.append_assoc, ← bytes] at hfield
  have hregion : Bits.field _ (8 * 0 + 24) 6 = _ := hfield 0 ⟨6, layout.region⟩ rfl
  have hbehind : Bits.field _ (8 * 0 + 31) 1 = _ := hfield 2 ⟨1, .ofBool layout.behind⟩ rfl
  have hhours : Bits.field _ (8 * 0 + 32) 8 = _ := hfield 3 ⟨8, layout.hours⟩ rfl
  have hminutes : Bits.field _ (8 * 0 + 40) 8 = _ := hfield 4 ⟨8, layout.minutes⟩ rfl
  have hmjd : Bits.field _ (8 * 0 + 48) 16 = _ := hfield 5 ⟨16, layout.changeMjd⟩ rfl
  have htime : Bits.field _ (8 * 0 + 64) 24 = _ := hfield 6 ⟨24, layout.changeTime⟩ rfl
  have hnextHours : Bits.field _ (8 * 0 + 88) 8 = _ := hfield 7 ⟨8, layout.nextHours⟩ rfl
  have hnextMinutes : Bits.field _ (8 * 0 + 96) 8 = _ := hfield 8 ⟨8, layout.nextMinutes⟩ rfl
  simp only [ofBits, offset, Bits.bit, hcountry, hregion, hbehind, hhours, hminutes, hmjd, htime,
    hnextHours, hnextMinutes, Bits.ofBool_toNat_beq]

theorem entryLoop_decode_bytes_append (rest : Bytes) :
    entryLoop.decode (layout.bytes ++ rest) = .ok layout.offset := by
  have htake : (layout.bytes ++ rest).take size = layout.bytes ++ [] := by
    rw [List.take_left' layout.length_bytes, List.append_nil]
  show decode ((layout.bytes ++ rest).take size) = _
  rw [htake, decode_of_le, ofBits_bytes_append]
  rw [List.append_nil, layout.length_bytes]

theorem length_flatMap_bytes (entries : List Layout) :
    (entries.flatMap bytes).length = size * entries.length :=
  Bytes.length_flatMap_of_length_eq length_bytes entries

/-- The entries of a body are read, if there is room for them. -/
theorem readEntries_flatMap_bytes {entries : List Layout} (h : entries.length ≤ 20) :
    Tot.readEntries (entries.flatMap bytes) .empty =
      .ok ⟨entries.map offset, by rwa [List.length_map]⟩ := by
  obtain ⟨behind, hreads⟩ := entryLoop.exists_reads_of_written bytes offset entries []
    (fun entry _ => entry.entryLoop_decode_bytes_append)
    (fun entry _ => entry.length_bytes.symm) (fun entry _ => entry.length_bytes.symm)
  have hwhole : size * ((entries.flatMap bytes).length / size) =
      (entries.flatMap bytes).length := by
    rw [length_flatMap_bytes, Nat.mul_div_cancel_left _ (by decide)]
  rw [List.append_nil] at hreads
  rw [readEntries_eq_run, hwhole, hreads.run_empty_eq_ok]

end LocalTimeOffset.Layout

namespace Tot.Descriptor

/-- A descriptor as it is broadcast. -/
inductive Layout
  /-- A local time offset descriptor. -/
  | offsets (entries : List LocalTimeOffset.Layout)
    (hlength : LocalTimeOffset.size * entries.length < 256)
  /-- A descriptor of another kind. -/
  | other (tag : BitVec 8) (body : Bytes) (htag : tag ≠ 0x58) (hlength : body.length < 256)

namespace Layout

def tag : Layout → BitVec 8
  | offsets _ _ => 0x58
  | other tag _ _ _ => tag

def body : Layout → Bytes
  | offsets entries _ => entries.flatMap LocalTimeOffset.Layout.bytes
  | other _ body _ _ => body

/-- The entries that a reader is to find. -/
def entries : Layout → List LocalTimeOffset
  | offsets entries _ => entries.map LocalTimeOffset.Layout.offset
  | other _ _ _ _ => []

theorem length_le_of_size_mul_lt {count : Nat} (h : LocalTimeOffset.size * count < 256) :
    count ≤ 20 := by
  have hbound : 13 * count < 256 := h
  omega

theorem length_entries_le (layout : Layout) : layout.entries.length ≤ 20 := by
  rcases layout with ⟨written, hlength⟩ | _
  · rw [entries, List.length_map]
    exact length_le_of_size_mul_lt hlength
  · exact Nat.zero_le _

theorem length_body_lt (layout : Layout) : layout.body.length < 256 := by
  rcases layout with ⟨entries, hlength⟩ | ⟨tag, body, htag, hlength⟩
  · rwa [body, LocalTimeOffset.Layout.length_flatMap_bytes]
  · exact hlength

variable (layout : Layout)

/-- The words before the body. -/
def words : List Bits.Word := [⟨8, layout.tag⟩, ⟨8, .ofNat 8 layout.body.length⟩]

def bytes : Bytes := Bits.write layout.words ++ layout.body

/-- The descriptor that a reader is to find. -/
def descriptor : Descriptor where
  tag := layout.tag.toNat
  length := layout.body.length
  entries := ⟨layout.entries, layout.length_entries_le⟩

theorem totalWidth_words : Bits.totalWidth layout.words = 16 := by rfl

theorem length_write_words : (Bits.write layout.words).length = descriptorPrefix := by
  rw [Bits.length_write, totalWidth_words]
  rfl

theorem length_bytes : layout.bytes.length = layout.body.length + descriptorPrefix := by
  rw [bytes, List.length_append, length_write_words, Nat.add_comm]

theorem tagAt_bytes_append (rest : Bytes) : tagAt (layout.bytes ++ rest) 0 = layout.tag.toNat := by
  rw [bytes, List.append_assoc]
  exact Bits.field_write layout.words (by rw [totalWidth_words]) _ 0 ⟨8, layout.tag⟩ rfl

theorem lengthAt_bytes_append (rest : Bytes) :
    lengthAt (layout.bytes ++ rest) 0 = layout.body.length := by
  rw [bytes, List.append_assoc]
  exact (Bits.field_write layout.words (by rw [totalWidth_words]) _ 1 ⟨8, .ofNat 8 _⟩ rfl).trans
    (Nat.mod_eq_of_lt layout.length_body_lt)

theorem decode_bytes_append (rest : Bytes) :
    decode (layout.bytes ++ rest) = .ok layout.descriptor := by
  have hbefore : 0 + descriptorPrefix ≤ (layout.bytes ++ rest).length := by
    rw [List.length_append, length_bytes]
    omega
  have hdrop : (layout.bytes ++ rest).drop (0 + descriptorPrefix) = layout.body ++ rest := by
    rw [Nat.zero_add, bytes, List.append_assoc, List.drop_left' layout.length_write_words]
  have hbody : layout.body.length ≤ (layout.body ++ rest).length := by
    rw [List.length_append]
    exact Nat.le_add_right _ _
  rw [← List.drop_zero (l := layout.bytes ++ rest), decode_drop hbefore, tagAt_bytes_append,
    lengthAt_bytes_append, hdrop, Bits.require_of_le hbody, List.take_left, ok_bind]
  rcases layout with ⟨written, hlength⟩ | ⟨tag, body, htag, hlength⟩
  · have hentries : readEntries (offsets written hlength).body .empty = _ :=
      LocalTimeOffset.Layout.readEntries_flatMap_bytes (length_le_of_size_mul_lt hlength)
    have hoffset : (offsets written hlength).tag.toNat = offsetTag := rfl
    rw [if_pos hoffset, hentries]
    rfl
  · have hother : (other tag body htag hlength).tag.toNat ≠ offsetTag := fun heq =>
      htag (BitVec.eq_of_toNat_eq heq)
    rw [if_neg hother]
    rfl

end Layout

end Tot.Descriptor

end DvbReceiver
