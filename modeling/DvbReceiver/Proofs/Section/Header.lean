import DvbReceiver.Section.Header
import DvbReceiver.Proofs.Bits.Words

/-!
# Section headers bit by bit

`ShortHeader.ofBits` and `LongHeader.ofBits` are the headers whose fields are the bits at their
places in a buffer. They are what decoding yields, and `LongHeader.decode_eq` says for every buffer
which of the errors takes the place of the header.

`LongHeader.Layout` is a header of the long form as it is broadcast, with its reserved bits.
-/

namespace DvbReceiver

/-- A one-bit field as a truth value. -/
def Bits.bit (buffer : Bytes) (offset : Nat) : Bool := field buffer offset 1 == 1

theorem Bits.flag_of_le {buffer : Bytes} {offset : Nat} (h : offset + 1 ≤ 8 * buffer.length) :
    flag buffer offset = .ok (bit buffer offset) := by
  rw [flag, extract_of_le Nat.one_pos (by decide) h]
  rfl

/-- The short header at the start of a buffer. -/
def ShortHeader.ofBits (buffer : Bytes) : ShortHeader where
  tableId := Bits.field buffer 0 8
  sectionSyntaxIndicator := Bits.bit buffer 8
  sectionLength := Bits.field buffer 12 12

/-- The long header at the start of a buffer. -/
def LongHeader.ofBits (buffer : Bytes) : LongHeader where
  toShortHeader := .ofBits buffer
  tableIdExtension := Bits.field buffer 24 16
  versionNumber := Bits.field buffer 42 5
  currentNextIndicator := Bits.bit buffer 47
  sectionNumber := Bits.field buffer 48 8
  lastSectionNumber := Bits.field buffer 56 8

theorem ShortHeader.decode_of_le {buffer : Bytes} (h : 3 ≤ buffer.length) :
    decode buffer = .ok (ofBits buffer) := by
  unfold decode Bits.u8At Bits.lowBits
  simp (disch := omega) only [Bits.extract_of_le, Bits.flag_of_le, ok_bind]
  rfl

/-- **What a long header decodes to**: a wrong table id is seen before missing bytes. -/
theorem LongHeader.decode_eq (expected : Nat) (buffer : Bytes) :
    decode expected buffer =
      if buffer.length = 0 then .error (.truncated 1 0)
      else if Bits.field buffer 0 8 ≠ expected then
        .error (.wrongTableId expected (Bits.field buffer 0 8))
      else if buffer.length < 8 then .error (.truncated 8 buffer.length)
      else .ok (ofBits buffer) := by
  rw [decode, Bits.u8At]
  split
  · next hempty =>
    rw [Bits.extract_of_lt (by decide) (by decide) (by omega), hempty]
    rfl
  · rw [Bits.extract_of_le (by decide) (by decide) (by omega), ok_bind]
    split
    · rfl
    · split
      · next hshort =>
        rw [Bits.require_of_lt hshort]
        rfl
      · unfold Bits.u8At Bits.u16At
        simp (disch := omega) only [Bits.require_of_le, ShortHeader.decode_of_le,
          Bits.extract_of_le, Bits.flag_of_le, ok_bind]
        rfl

theorem LongHeader.decode_of_le {expected : Nat} {buffer : Bytes} {octet : UInt8}
    (h : 8 ≤ buffer.length) (hhead : buffer.head? = some octet)
    (htableId : octet.toNat = expected) : decode expected buffer = .ok (ofBits buffer) := by
  obtain ⟨bytes, rfl⟩ : ∃ bytes, buffer = octet :: bytes := List.head?_eq_some_iff.1 hhead
  rw [decode_eq, Bits.field_cons, if_neg (by omega), if_neg (not_not_intro htableId),
    if_neg (Nat.not_lt.2 h)]

/-! ## As broadcast -/

theorem Bits.ofBool_toNat_beq (bit : Bool) : ((BitVec.ofBool bit).toNat == 1) = bit := by
  cases bit <;> rfl

/-- A header of the long form, with its reserved bits and without what the table and its length
fix. -/
structure LongHeader.Layout where
  sectionSyntaxIndicator : Bool
  reservedBeforeLength : BitVec 3
  tableIdExtension : BitVec 16
  reservedBeforeVersion : BitVec 2
  versionNumber : BitVec 5
  currentNextIndicator : Bool
  sectionNumber : BitVec 8
  lastSectionNumber : BitVec 8

namespace LongHeader.Layout

/-- The words of the header. -/
def words (layout : Layout) (tableId : BitVec 8) (sectionLength : BitVec 12) : List Bits.Word :=
  [⟨8, tableId⟩, ⟨1, .ofBool layout.sectionSyntaxIndicator⟩, ⟨3, layout.reservedBeforeLength⟩,
    ⟨12, sectionLength⟩, ⟨16, layout.tableIdExtension⟩, ⟨2, layout.reservedBeforeVersion⟩,
    ⟨5, layout.versionNumber⟩, ⟨1, .ofBool layout.currentNextIndicator⟩,
    ⟨8, layout.sectionNumber⟩, ⟨8, layout.lastSectionNumber⟩]

/-- The fields that a reader is to find. -/
def header (layout : Layout) (tableId : BitVec 8) (sectionLength : BitVec 12) : LongHeader where
  tableId := tableId.toNat
  sectionSyntaxIndicator := layout.sectionSyntaxIndicator
  sectionLength := sectionLength.toNat
  tableIdExtension := layout.tableIdExtension.toNat
  versionNumber := layout.versionNumber.toNat
  currentNextIndicator := layout.currentNextIndicator
  sectionNumber := layout.sectionNumber.toNat
  lastSectionNumber := layout.lastSectionNumber.toNat

variable (layout : Layout) (tableId : BitVec 8) (sectionLength : BitVec 12)

theorem totalWidth_words : Bits.totalWidth (layout.words tableId sectionLength) = 64 := by rfl

theorem length_write_words : (Bits.write (layout.words tableId sectionLength)).length = 8 := by
  rw [Bits.length_write, totalWidth_words]

/-- **The fields of a header are found again.** -/
theorem ofBits_write_words (rest : Bytes) :
    ofBits (Bits.write (layout.words tableId sectionLength) ++ rest) =
      layout.header tableId sectionLength := by
  have hfield := Bits.field_write (layout.words tableId sectionLength)
    (by rw [totalWidth_words]) rest
  have htableId : Bits.field _ 0 8 = _ := hfield 0 ⟨8, tableId⟩ rfl
  have hsyntax : Bits.field _ 8 1 = _ := hfield 1 ⟨1, .ofBool layout.sectionSyntaxIndicator⟩ rfl
  have hlength : Bits.field _ 12 12 = _ := hfield 3 ⟨12, sectionLength⟩ rfl
  have hextension : Bits.field _ 24 16 = _ := hfield 4 ⟨16, layout.tableIdExtension⟩ rfl
  have hversion : Bits.field _ 42 5 = _ := hfield 6 ⟨5, layout.versionNumber⟩ rfl
  have hcurrent : Bits.field _ 47 1 = _ := hfield 7 ⟨1, .ofBool layout.currentNextIndicator⟩ rfl
  have hnumber : Bits.field _ 48 8 = _ := hfield 8 ⟨8, layout.sectionNumber⟩ rfl
  have hlast : Bits.field _ 56 8 = _ := hfield 9 ⟨8, layout.lastSectionNumber⟩ rfl
  simp only [ofBits, ShortHeader.ofBits, header, Bits.bit, htableId, hsyntax, hlength, hextension,
    hversion, hcurrent, hnumber, hlast, Bits.ofBool_toNat_beq]

/-- **A header that is broadcast is decoded** by the decoder for its table. -/
theorem decode_write_words {expected : Nat} (h : tableId.toNat = expected) (rest : Bytes) :
    decode expected (Bits.write (layout.words tableId sectionLength) ++ rest) =
      .ok (layout.header tableId sectionLength) := by
  have hheader := layout.ofBits_write_words tableId sectionLength rest
  have hlength : 8 ≤ (Bits.write (layout.words tableId sectionLength) ++ rest).length := by
    rw [List.length_append, length_write_words]
    exact Nat.le_add_right _ _
  generalize Bits.write (layout.words tableId sectionLength) ++ rest = buffer at hheader hlength ⊢
  have htableId : Bits.field buffer 0 8 = expected := (congrArg (·.tableId) hheader).trans h
  rw [decode_eq, if_neg (by omega), if_neg (not_not_intro htableId), if_neg (Nat.not_lt.2 hlength),
    hheader]

end LongHeader.Layout

end DvbReceiver
