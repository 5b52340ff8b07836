import DvbReceiver.Proofs.Section.Header

/-!
# Operations of a machine

The numbers of a machine have a width, and the bytes that it works on have an end. An operation that
leaves either is a `Fault`, which ends the program, unlike an error that a decoder reports.

`Machine` has the two things that machines differ in: the width of addresses and lengths, and the
reader that takes bits out of a byte string. The readers of fields are written down here with the
operations that such a machine carries out for them, and they are equal to those of `Bits`, without
a fault, as long as the place of the field is a number of 32 bits.
-/

namespace DvbReceiver

/-- What ends a program. -/
inductive Fault
  /-- A number does not fit into so many bits. -/
  | overflow (bits number : Nat)
  /-- A number is to be lessened by a greater one. -/
  | underflow (number less : Nat)
  /-- The bytes that are asked for do not all lie in the byte string. -/
  | outside (start stop length : Nat)
  /-- The reader has come to the end of its bytes. -/
  | unreadable
  /-- A date lies in no supported year. -/
  | unsupportedDate
  deriving DecidableEq, Repr

/-- A machine with addresses of 32 bits at least, and with a reader of bits. -/
structure Machine where
  addressBits : Nat
  /-- Reads `width` bits behind the first `skipped`, most significant bit first. -/
  readBits? (bytes : Bytes) (skipped width : Nat) : Option Nat
  wide : 32 ≤ addressBits
  /-- The reader finds the bits that are there. -/
  reads : ∀ bytes skipped width, 0 < width → width ≤ 32 → skipped + width ≤ 8 * bytes.length →
    readBits? bytes skipped width = some (Bits.field bytes skipped width)

/-- What a machine makes of a section: a fault, or what a decoder says. -/
abbrev Checked (α : Type) := ExceptT ParseError (Except Fault) α

namespace Checked

variable {α β : Type}

/-- What a decoder says, without a fault. -/
def safely (result : Except ParseError α) : Checked α := .mk (.ok result)

theorem safely_bind (result : Except ParseError α) (next : α → Except ParseError β) :
    (safely result >>= fun a => safely (next a)) = safely (result >>= next) := by
  cases result <;> rfl

/-- What goes on without a fault needs to do so only with what has been decoded. -/
theorem safely_bind_congr {result : Except ParseError α} {next : α → Checked β}
    {next' : α → Except ParseError β} (h : ∀ a, result = .ok a → next a = safely (next' a)) :
    (safely result >>= next) = safely (result >>= next') := by
  cases result with
  | error error => rfl
  | ok a => exact h a rfl

theorem safely_ok_bind (a : α) (next : α → Checked β) :
    (safely (.ok a) >>= next) = next a := rfl

theorem safely_pure (a : α) : (pure a : Checked α) = safely (pure a) := rfl

theorem safely_map (f : α → β) (result : Except ParseError α) :
    f <$> safely result = safely (result.map f) := by
  cases result <;> rfl

theorem safely_throw (error : ParseError) : (throw error : Checked α) = safely (.error error) := rfl

theorem lift_ok_bind (a : α) (next : α → Checked β) :
    (liftM (Except.ok a : Except Fault α) >>= next) = next a := rfl

end Checked

/-! ## Numbers and byte strings -/

/-- The number fits into so many bits. -/
def check (bits number : Nat) : Except Fault Unit :=
  if number < 2 ^ bits then .ok () else .error (.overflow bits number)

theorem check_of_lt {bits number : Nat} (h : number < 2 ^ bits) : check bits number = .ok () :=
  if_pos h

/-- A number lessened by another. -/
def lessen (number less : Nat) : Except Fault Nat :=
  if less ≤ number then .ok (number - less) else .error (.underflow number less)

theorem lessen_of_le {number less : Nat} (h : less ≤ number) :
    lessen number less = .ok (number - less) :=
  if_pos h

namespace Bytes

/-- The octet at a place. -/
def octetAt (bytes : Bytes) (place : Nat) : Except Fault UInt8 :=
  match bytes[place]? with
  | some octet => .ok octet
  | none => .error (.outside place (place + 1) bytes.length)

/-- The octets from one place up to another. -/
def slice (bytes : Bytes) (start stop : Nat) : Except Fault Bytes :=
  if start ≤ stop ∧ stop ≤ bytes.length then .ok ((bytes.take stop).drop start)
  else .error (.outside start stop bytes.length)

theorem slice_of_le {bytes : Bytes} {start stop : Nat} (h : start ≤ stop)
    (hstop : stop ≤ bytes.length) : slice bytes start stop = .ok ((bytes.take stop).drop start) :=
  if_pos ⟨h, hstop⟩

theorem octetAt_of_lt {bytes : Bytes} {place : Nat} (h : place < bytes.length) :
    octetAt bytes place = .ok bytes[place] := by
  rw [octetAt, List.getElem?_eq_getElem h]

end Bytes

/-! ## Fields -/

namespace Checked

/-- A number that is kept in so many bits. -/
def narrow (bits : Nat) (number : Checked Nat) : Checked Nat := do
  let number ← number
  check bits number
  return number

theorem narrow_safely {bits : Nat} {result : Except ParseError Nat}
    (h : ∀ number, result = .ok number → number < 2 ^ bits) :
    narrow bits (safely result) = safely result := by
  cases result with
  | error error => rfl
  | ok number =>
    rw [narrow, safely_ok_bind, check_of_lt (h number rfl), lift_ok_bind]
    rfl

theorem narrow_extract {bits width : Nat} (h : width ≤ bits) (buffer : Bytes) (offset : Nat) :
    narrow bits (safely (Bits.extract buffer offset width)) =
      safely (Bits.extract buffer offset width) :=
  narrow_safely fun _ hfield =>
    Nat.lt_of_lt_of_le (Bits.lt_of_extract hfield) (Nat.pow_le_pow_right (by decide) h)

end Checked

namespace Machine

open Checked

variable (machine : Machine)

/-- The number fits into an address. -/
def address (number : Nat) : Except Fault Unit := check machine.addressBits number

/-- Reads bits that have to be there. -/
def readBits (bytes : Bytes) (skipped width : Nat) : Except Fault Nat :=
  match machine.readBits? bytes skipped width with
  | some number => .ok number
  | none => .error .unreadable

/-- The field of `width` bits that starts at bit `offset`. -/
def extract (buffer : Bytes) (offset width : Nat) : Checked Nat := do
  if width = 0 ∨ 32 < width then throw (.invalidWidth width) else
    machine.address (offset + width)
    safely (Bits.require buffer (Bits.bytesFor (offset + width)))
    let touched ← buffer.slice (offset / 8) (Bits.bytesFor (offset + width))
    machine.readBits touched (offset % 8) width

/-- The octet at a byte offset. -/
def u8At (buffer : Bytes) (offset : Nat) : Checked Nat := do
  machine.address (8 * offset)
  narrow 8 (machine.extract buffer (8 * offset) 8)

/-- The 16-bit number at a byte offset. -/
def u16At (buffer : Bytes) (offset : Nat) : Checked Nat := do
  machine.address (8 * offset)
  narrow 16 (machine.extract buffer (8 * offset) 16)

/-- The low `width` bits of the 16-bit number at a byte offset. -/
def lowBits (buffer : Bytes) (offset width : Nat) : Checked Nat := do
  machine.address (8 * offset)
  let skipped ← lessen 16 width
  machine.address (8 * offset + skipped)
  narrow 16 (machine.extract buffer (8 * offset + skipped) width)

/-- The one-bit field at bit `offset`. -/
def flag (buffer : Bytes) (offset : Nat) : Checked Bool := do
  return (← machine.extract buffer offset 1) == 1

variable {machine} {buffer : Bytes} {offset width : Nat}

theorem address_of_lt {number : Nat} (h : number < 2 ^ 32) : machine.address number = .ok () :=
  check_of_lt (Nat.lt_of_lt_of_le h (Nat.pow_le_pow_right (by decide) machine.wide))

theorem readBits_of_le {bytes : Bytes} {skipped : Nat} (hpos : 0 < width) (hwidth : width ≤ 32)
    (h : skipped + width ≤ 8 * bytes.length) :
    machine.readBits bytes skipped width = .ok (Bits.field bytes skipped width) := by
  rw [readBits, machine.reads bytes skipped width hpos hwidth h]

/-- **The reader never comes to the end of its bytes**, and no byte outside the buffer is asked for,
once the width and the length of the buffer have been looked at. -/
theorem extract_eq_of_address (h : machine.address (offset + width) = .ok ()) :
    machine.extract buffer offset width = safely (Bits.extract buffer offset width) := by
  by_cases hwidth : width = 0 ∨ 32 < width
  · rw [extract, Bits.extract_eq, if_pos hwidth, if_pos hwidth, safely_throw]
  · rw [extract, if_neg hwidth, h, lift_ok_bind]
    rcases Nat.lt_or_ge (8 * buffer.length) (offset + width) with hlt | hfits
    · have hshort : buffer.length < Bits.bytesFor (offset + width) :=
        Nat.lt_of_not_le (mt Bits.bytesFor_le_iff.1 (Nat.not_le.2 hlt))
      rw [Bits.extract_of_lt (by omega) (by omega) hlt, Bits.require_of_lt hshort]
      rfl
    · -- The octets that are cut out hold the whole field.
      have hle : Bits.bytesFor (offset + width) ≤ buffer.length := Bits.bytesFor_le_iff.2 hfits
      have hlast := Bits.bytesFor_le_iff.1 (Nat.le_refl (Bits.bytesFor (offset + width)))
      have htouched : ((buffer.take (Bits.bytesFor (offset + width))).drop (offset / 8)).length =
          Bits.bytesFor (offset + width) - offset / 8 := by
        rw [List.length_drop, List.length_take_of_le hle]
      rw [Bits.extract_of_le (by omega) (by omega) hfits, Bits.require_of_le hle, safely_ok_bind,
        Bytes.slice_of_le (by omega) hle, lift_ok_bind,
        readBits_of_le (by omega) (by omega) (by omega), Bits.field_touched hfits]
      rfl

theorem extract_eq (h : offset + width < 2 ^ 32) :
    machine.extract buffer offset width = safely (Bits.extract buffer offset width) :=
  extract_eq_of_address (address_of_lt h)

theorem u8At_eq (h : offset < 2 ^ 16) :
    machine.u8At buffer offset = safely (Bits.u8At buffer offset) := by
  rw [u8At, address_of_lt (by omega), lift_ok_bind, extract_eq (by omega),
    narrow_extract (Nat.le_refl 8), Bits.u8At]

theorem u16At_eq (h : offset < 2 ^ 16) :
    machine.u16At buffer offset = safely (Bits.u16At buffer offset) := by
  rw [u16At, address_of_lt (by omega), lift_ok_bind, extract_eq (by omega),
    narrow_extract (Nat.le_refl 16), Bits.u16At]

theorem lowBits_eq (h : offset < 2 ^ 16) (hwidth : width ≤ 16) :
    machine.lowBits buffer offset width = safely (Bits.lowBits buffer offset width) := by
  rw [lowBits, address_of_lt (by omega), lift_ok_bind, lessen_of_le hwidth, lift_ok_bind,
    address_of_lt (by omega), lift_ok_bind, extract_eq (by omega), narrow_extract hwidth,
    Bits.lowBits]

theorem flag_eq (h : offset < 2 ^ 16) :
    machine.flag buffer offset = safely (Bits.flag buffer offset) := by
  rw [flag, extract_eq (by omega)]
  simp only [safely_pure, safely_bind]
  rfl

end Machine

end DvbReceiver
