import DvbReceiver.Bits.Address
import DvbReceiver.Proofs.Bits.Slices
import DvbReceiver.Proofs.Machine.Operations
import Mathlib.Algebra.Order.Floor.Div

/-!
# Reading fields at every offset

A reader of `Bits.Address` has an answer as long as the end of the field is an address, and it is
that of `Bits` then (`Bits.Address.extract_of_lt`, `Bits.Address.extract_of_le`). A machine whose
addresses have 64 bits reckons the places step by step and comes to the same answers, and to a fault
where there is none (`Bits.Address.Carries`).

What the readers say of a buffer is put together in `Bits.SlicesBigEndian`: what comes first, the
width, the address or the length of the buffer, the field as a slice of the number that the buffer
spells, and how a field is made of its parts.
-/

namespace DvbReceiver

namespace Bits

namespace Address

variable {buffer : Bytes} {offset place width : Nat}

/-! ## Answers and none -/

theorem address_of_lt {number : Nat} (h : number < 2 ^ 64) : address number = some number :=
  if_pos h

theorem address_of_le {number : Nat} (h : 2 ^ 64 ≤ number) : address number = none :=
  if_neg (Nat.not_lt.2 h)

theorem some_bind {α β : Type} (a : α) (next : α → Addressed β) :
    (liftM (some a) >>= next : Addressed β) = next a := rfl

theorem none_bind {α β : Type} (next : α → Addressed β) :
    (liftM (none : Option α) >>= next : Addressed β) = .mk none := rfl

theorem answer_bind {α β : Type} (result : Except ParseError α) (next : α → Except ParseError β) :
    (answer result >>= fun a => answer (next a)) = answer (result >>= next) := by
  cases result <;> rfl

theorem extract_of_invalid (h : width = 0 ∨ 32 < width) :
    extract buffer offset width = throw (.invalidWidth width) := if_pos h

theorem extract_of_lt (h : offset + width < 2 ^ 64) :
    extract buffer offset width = answer (Bits.extract buffer offset width) := by
  by_cases hwidth : width = 0 ∨ 32 < width
  · rw [extract_of_invalid hwidth, Bits.extract_eq, if_pos hwidth]
    rfl
  · rw [extract, if_neg hwidth, address_of_lt h, some_bind]

theorem extract_of_le (hpos : 0 < width) (hwidth : width ≤ 32) (h : 2 ^ 64 ≤ offset + width) :
    extract buffer offset width = .mk none := by
  rw [extract, if_neg (by omega), address_of_le h, none_bind]

/-- A place that is no address has no address behind it. -/
theorem fieldAt_eq_extract (buffer : Bytes) (place : Nat) (hpos : 0 < width) (hwidth : width ≤ 32) :
    fieldAt buffer place width = extract buffer place width := by
  rw [fieldAt]
  rcases Nat.lt_or_ge place (2 ^ 64) with hplace | hplace
  · rw [address_of_lt hplace, some_bind]
  · rw [address_of_le hplace, none_bind, extract_of_le hpos hwidth (by omega)]

theorem u8At_eq_extract (buffer : Bytes) (offset : Nat) :
    u8At buffer offset = extract buffer (8 * offset) 8 :=
  fieldAt_eq_extract buffer (8 * offset) (by decide) (by decide)

theorem u16At_eq_extract (buffer : Bytes) (offset : Nat) :
    u16At buffer offset = extract buffer (8 * offset) 16 :=
  fieldAt_eq_extract buffer (8 * offset) (by decide) (by decide)

/-- The low bits of a number end with it. -/
theorem lowBits_eq_extract (buffer : Bytes) (offset : Nat) (hpos : 0 < width)
    (hwidth : width ≤ 16) :
    lowBits buffer offset width = extract buffer (8 * offset + (16 - width)) width := by
  have hskipped : lessened 16 width = some (16 - width) := if_pos hwidth
  rw [lowBits]
  rcases Nat.lt_or_ge (8 * offset) (2 ^ 64) with hplace | hplace
  · rw [address_of_lt hplace, some_bind, hskipped, some_bind,
      fieldAt_eq_extract _ _ hpos (by omega)]
  · rw [address_of_le hplace, none_bind, extract_of_le hpos (by omega) (by omega)]

/-- Only what is all there is read. -/
theorem extract_eq_ok {number : Nat} (h : extract buffer offset width = answer (.ok number)) :
    Bits.extract buffer offset width = .ok number := by
  by_cases hwidth : width = 0 ∨ 32 < width
  · rw [extract_of_invalid hwidth] at h
    cases h
  · rcases Nat.lt_or_ge (offset + width) (2 ^ 64) with hlt | hle
    · rw [extract_of_lt hlt] at h
      exact Option.some.inj h
    · rw [extract_of_le (by omega) (by omega) hle] at h
      cases h

/-! ## Parts of a field -/

/-- A field can be read in two parts, and if there is no answer for it, there is none for the part
that ends last. -/
theorem extract_add (buffer : Bytes) (offset high low : Nat) (hhigh : 0 < high) (hlow : 0 < low)
    (hwidth : high + low ≤ 32) :
    extract buffer offset (high + low) = do
      let last ← extract buffer (offset + high) low
      let first ← extract buffer offset high
      return first * 2 ^ low + last := by
  rcases Nat.lt_or_ge (offset + (high + low)) (2 ^ 64) with hlt | hle
  · rw [extract_of_lt hlt, extract_of_lt (by omega), extract_of_lt (by omega),
      Bits.extract_add buffer offset high low hhigh hlow hwidth, ← answer_bind]
    simp only [← answer_bind]
    rfl
  · rw [extract_of_le (by omega) hwidth hle, extract_of_le hlow (by omega) (by omega)]
    rfl

theorem u16At_eq (buffer : Bytes) (offset : Nat) :
    u16At buffer offset = do
      let last ← u8At buffer (offset + 1)
      let first ← u8At buffer offset
      return 256 * first + last := by
  have hadd := extract_add buffer (8 * offset) 8 8 (by decide) (by decide) (by decide)
  rw [u16At_eq_extract, u8At_eq_extract, u8At_eq_extract, hadd]
  simp only [Nat.mul_comm _ (2 ^ 8)]
  rfl

theorem lowBits_eq (hpos : 0 < width) (hwidth : width ≤ 16) :
    lowBits buffer offset width = do return (← u16At buffer offset) % 2 ^ width := by
  rw [lowBits_eq_extract buffer offset hpos hwidth, u16At_eq_extract]
  rcases Nat.lt_or_ge (8 * offset + 16) (2 ^ 64) with hlt | hle
  · have hparts : Bits.extract buffer (8 * offset + (16 - width)) width =
      do return (← Bits.extract buffer (8 * offset) 16) % 2 ^ width :=
      Bits.lowBits_eq buffer offset hpos hwidth
    rw [extract_of_lt hlt, extract_of_lt (by omega), hparts, ← answer_bind]
    rfl
  · rw [extract_of_le (by decide) (by decide) hle, extract_of_le hpos (by omega) (by omega)]
    rfl

/-! ## On a machine -/

/-- What a machine comes to is the answer of a reader, and a fault if there is none. -/
structure Carries {α : Type} (checked : Checked α) (addressed : Addressed α) : Prop where
  safely (result : Except ParseError α) (h : addressed = answer result) : checked = .safely result
  fault (h : addressed = .mk none) : ∃ fault, checked = .mk (.error fault)

theorem carries_answer {α : Type} (result : Except ParseError α) :
    Carries (.safely result) (answer result) where
  safely _ h := by
    cases h
    rfl
  fault h := by cases h

theorem carries_none {α : Type} (fault : Fault) :
    Carries (.mk (.error fault) : Checked α) (.mk none) where
  safely _ h := by cases h
  fault _ := ⟨fault, rfl⟩

/-- Numbers that are small enough may be kept in fewer bits. -/
theorem Carries.narrow {checked : Checked Nat} {addressed : Addressed Nat} {bits : Nat}
    (h : Carries checked addressed)
    (hnumber : ∀ number, addressed = answer (.ok number) → number < 2 ^ bits) :
    Carries (.narrow bits checked) addressed where
  safely result heq := by
    subst heq
    rw [h.safely result rfl, Checked.narrow_safely]
    rintro number rfl
    exact hnumber number rfl
  fault heq := by
    obtain ⟨fault, hfault⟩ := h.fault heq
    exact ⟨fault, by rw [hfault]; rfl⟩

section Machine

variable {machine : Machine} (hbits : machine.addressBits = 64)

include hbits

theorem machine_address_of_lt {number : Nat} (h : number < 2 ^ 64) :
    machine.address number = .ok () := by
  rw [Machine.address, hbits, check_of_lt h]

theorem machine_address_of_le {number : Nat} (h : 2 ^ 64 ≤ number) :
    machine.address number = .error (.overflow 64 number) := by
  rw [Machine.address, hbits, check, if_neg (Nat.not_lt.2 h)]

variable (buffer)

theorem carries_extract (offset width : Nat) :
    Carries (machine.extract buffer offset width) (extract buffer offset width) := by
  rcases Nat.lt_or_ge (offset + width) (2 ^ 64) with hlt | hle
  · rw [Machine.extract_eq_of_address (machine_address_of_lt hbits hlt), extract_of_lt hlt]
    exact carries_answer _
  · by_cases hwidth : width = 0 ∨ 32 < width
    · rw [Machine.extract, if_pos hwidth, extract_of_invalid hwidth]
      exact carries_answer (.error _)
    · rw [Machine.extract, if_neg hwidth, machine_address_of_le hbits hle,
        extract_of_le (by omega) (by omega) hle]
      exact carries_none _

theorem carries_fieldAt {bits : Nat} (place : Nat) (hwidth : width ≤ bits) :
    Carries (do machine.address place; .narrow bits (machine.extract buffer place width))
      (fieldAt buffer place width) := by
  rcases Nat.lt_or_ge place (2 ^ 64) with hplace | hplace
  · rw [machine_address_of_lt hbits hplace, Checked.lift_ok_bind, fieldAt, address_of_lt hplace,
      some_bind]
    refine (carries_extract buffer hbits place width).narrow fun number hnumber => ?_
    exact Nat.lt_of_lt_of_le (Bits.lt_of_extract (extract_eq_ok hnumber))
      (Nat.pow_le_pow_right (by decide) hwidth)
  · rw [machine_address_of_le hbits hplace, fieldAt, address_of_le hplace, none_bind]
    exact carries_none _

theorem carries_lowBits (offset width : Nat) :
    Carries (machine.lowBits buffer offset width) (lowBits buffer offset width) := by
  rw [Machine.lowBits, lowBits]
  rcases Nat.lt_or_ge (8 * offset) (2 ^ 64) with hplace | hplace
  · rw [machine_address_of_lt hbits hplace, Checked.lift_ok_bind, address_of_lt hplace, some_bind]
    by_cases hwidth : width ≤ 16
    · rw [lessen_of_le hwidth, Checked.lift_ok_bind, lessened, if_pos hwidth, some_bind]
      exact carries_fieldAt buffer hbits _ hwidth
    · rw [lessen, if_neg hwidth, lessened, if_neg hwidth]
      exact carries_none _
  · rw [machine_address_of_le hbits hplace, address_of_le hplace, none_bind]
    exact carries_none _

end Machine

end Address

end Bits

/-- A machine with addresses of 64 bits whose reader goes through the bits one by one. -/
def Machine.bitwise : Machine where
  addressBits := 64
  readBits? bytes skipped width :=
    let left := (Bits.ofBytes bytes).drop skipped
    if width ≤ left.length then some (Bits.spelled (left.take width)) else none
  wide := Nat.le_add_left 32 32
  reads bytes skipped width _ _ h := by
    have hlength := Bits.length_ofBytes bytes
    rw [if_pos (by rw [List.length_drop]; omega), Bits.field_eq_spelled h]

namespace Bits

/-! ## Every buffer -/

/-- What the readers of fields say of a buffer. -/
structure SlicesBigEndian (buffer : Bytes) : Prop where
  /-- The width is looked at first, then the place behind the field, which has to be an address, and
  then the length of the buffer. What is read is a slice of the number that the whole buffer
  spells. -/
  reads (offset width : Nat) : (Address.extract buffer offset width).run =
    if width = 0 ∨ 32 < width then some (.error (.invalidWidth width))
    else if 2 ^ 64 ≤ offset + width then none
    else if buffer.length < (offset + width) ⌈/⌉ 8 then
      some (.error (.truncated ((offset + width) ⌈/⌉ 8) buffer.length))
    else some (.ok (buffer.value / 2 ^ (8 * buffer.length - offset - width) % 2 ^ width))
  /-- It is what the bits behind those that are skipped spell. -/
  spells (offset width number : Nat)
    (h : (Address.extract buffer offset width).run = some (.ok number)) :
    number = spelled (((ofBytes buffer).drop offset).take width)
  /-- A field is made of its high and its low bits, and if there is no answer for it, there is none
  for them. -/
  joins (offset high low : Nat) (hhigh : 1 ≤ high) (hlow : 1 ≤ low) (hwidth : high + low ≤ 32) :
    Address.extract buffer offset (high + low) = do
      let last ← Address.extract buffer (offset + high) low
      let first ← Address.extract buffer offset high
      return first * 2 ^ low + last
  octet (offset : Nat) : Address.u8At buffer offset = Address.extract buffer (8 * offset) 8
  word (offset : Nat) : Address.u16At buffer offset = do
    let last ← Address.u8At buffer (offset + 1)
    let first ← Address.u8At buffer offset
    return 256 * first + last
  lowBits (offset width : Nat) (hpos : 1 ≤ width) (hwidth : width ≤ 16) :
    Address.lowBits buffer offset width = do
      return (← Address.u16At buffer offset) % 2 ^ width
  /-- Up to the last address the decoders may do without addresses. -/
  unaddressed (offset width : Nat) (h : offset + width < 2 ^ 64) :
    Address.extract buffer offset width = Address.answer (extract buffer offset width)
  /-- A machine reads fields from the octets that they touch, whatever its reader of bits is. It
  comes to a fault where there is no answer. -/
  onMachine (machine : Machine) (hbits : machine.addressBits = 64) (offset width : Nat) :
    Address.Carries (machine.extract buffer offset width) (Address.extract buffer offset width) ∧
      Address.Carries (machine.u8At buffer offset) (Address.u8At buffer offset) ∧
      Address.Carries (machine.u16At buffer offset) (Address.u16At buffer offset) ∧
      Address.Carries (machine.lowBits buffer offset width) (Address.lowBits buffer offset width)

theorem bytesFor_eq_ceilDiv (bits : Nat) : bytesFor bits = bits ⌈/⌉ 8 :=
  (Nat.ceilDiv_eq_add_pred_div bits 8).symm

/-- **Fields are big-endian slices** of the buffer, as far as there are addresses. -/
theorem slicesBigEndian (buffer : Bytes) : SlicesBigEndian buffer where
  reads offset width := by
    by_cases hwidth : width = 0 ∨ 32 < width
    · rw [Address.extract_of_invalid hwidth, if_pos hwidth]
      rfl
    rw [if_neg hwidth]
    rcases Nat.lt_or_ge (offset + width) (2 ^ 64) with hlt | hle
    · rw [if_neg (Nat.not_le.2 hlt), Address.extract_of_lt hlt, extract_eq, if_neg hwidth,
        bytesFor_eq_ceilDiv, Nat.sub_sub]
      split <;> rfl
    · rw [if_pos hle, Address.extract_of_le (by omega) (by omega) hle]
      rfl
  spells offset width number h := by
    have hnumber : extract buffer offset width = .ok number := Address.extract_eq_ok h
    have hwidth : ¬(width = 0 ∨ 32 < width) := fun hwidth => by
      rw [extract_eq, if_pos hwidth] at hnumber
      cases hnumber
    have hfits := bytesFor_le_iff.1 (length_of_extract hnumber)
    rw [extract_of_le (by omega) (by omega) hfits] at hnumber
    rw [← field_eq_spelled hfits]
    exact (Except.ok.inj hnumber).symm
  joins := Address.extract_add buffer
  octet := Address.u8At_eq_extract buffer
  word := Address.u16At_eq buffer
  lowBits _ _ := Address.lowBits_eq
  unaddressed _ _ := Address.extract_of_lt
  onMachine _ hbits offset width :=
    ⟨Address.carries_extract buffer hbits offset width,
      Address.carries_fieldAt buffer hbits (8 * offset) (Nat.le_refl 8),
      Address.carries_fieldAt buffer hbits (8 * offset) (Nat.le_refl 16),
      Address.carries_lowBits buffer hbits offset width⟩

/-- Five octets. -/
def sampleOctets : Bytes := [0x12, 0x34, 0x56, 0x78, 0x9A]

/-- A field that touches all five octets, on a machine that reads bit by bit, a field that is not
all there, the last octet that ends at an address, and one that does not. -/
theorem slicesBigEndian_unaligned :
    SlicesBigEndian sampleOctets ∧ Machine.bitwise.addressBits = 64 ∧
      Machine.bitwise.extract sampleOctets 4 32 = .safely (.ok 0x23456789) ∧
      (Address.extract sampleOctets 34 8).run = some (.error (.truncated 6 5)) ∧
      (Address.extract sampleOctets (2 ^ 64 - 9) 8).run =
        some (.error (.truncated (2 ^ 61) 5)) ∧
      (Address.extract sampleOctets (2 ^ 64 - 8) 8).run = none ∧
      ∃ fault, Machine.bitwise.extract sampleOctets (2 ^ 64 - 8) 8 = .mk (.error fault) := by
  have hslices := slicesBigEndian sampleOctets
  have hread : Address.extract sampleOctets 4 32 = Address.answer (.ok 0x23456789) :=
    hslices.reads 4 32
  have hnone : Address.extract sampleOctets (2 ^ 64 - 8) 8 = .mk none :=
    hslices.reads (2 ^ 64 - 8) 8
  refine ⟨hslices, rfl, ?_, hslices.reads 34 8, hslices.reads (2 ^ 64 - 9) 8, hnone, ?_⟩
  · exact (hslices.onMachine Machine.bitwise rfl 4 32).1.safely _ hread
  · exact (hslices.onMachine Machine.bitwise rfl (2 ^ 64 - 8) 8).1.fault hnone

/-- A field that is not all there is not always reported: at the last address of all, the place
behind it comes first, and a machine has no number for that. -/
theorem not_always_truncated :
    (¬∀ (buffer : Bytes) (offset width : Nat), offset < 2 ^ 64 → 1 ≤ width → width ≤ 32 →
      8 * buffer.length < offset + width → ∃ needed,
        (Address.extract buffer offset width).run =
          some (.error (.truncated needed buffer.length))) ∧
    Machine.bitwise.extract [0x00] (2 ^ 64 - 1) 8 =
      .mk (.error (.overflow 64 (2 ^ 64 + 7))) := by
  constructor
  · intro hall
    obtain ⟨needed, hlast⟩ :=
      hall [0x00] (2 ^ 64 - 1) 8 (by decide) (by decide) (by decide) (by decide)
    cases hlast
  · rfl

end Bits

end DvbReceiver
