import DvbReceiver.Bytes
import DvbReceiver.ParseError

/-!
# Bit fields

Sections are read as bit fields, most significant bit first, at bit offsets counted from the
start of a buffer. `Bits.extract` cuts the octets that a field touches out of the buffer and
takes the field from the number they spell; the other readers are cases of it. The width of a
field is looked at before the length of the buffer.

Offsets and what is reckoned from them are natural numbers here. `Bits.Address` says how far a
machine can follow.
-/

namespace DvbReceiver.Bits

/-- The buffer has at least `needed` bytes. -/
def require (buffer : Bytes) (needed : Nat) : Except ParseError Unit :=
  if buffer.length < needed then .error (.truncated needed buffer.length) else .ok ()

/-- The number of bytes that hold the first `bits` bits. -/
def bytesFor (bits : Nat) : Nat := (bits + 7) / 8

/-- The field of `width` bits that starts at bit `offset`. -/
def extract (buffer : Bytes) (offset width : Nat) : Except ParseError Nat := do
  if width = 0 ∨ 32 < width then .error (.invalidWidth width) else
    let last := bytesFor (offset + width)
    require buffer last
    let touched := (buffer.take last).drop (offset / 8)
    .ok (Bytes.value touched / Nat.pow 2 (8 * last - (offset + width)) % Nat.pow 2 width)

/-- The octet at a byte offset. -/
def u8At (buffer : Bytes) (offset : Nat) : Except ParseError Nat :=
  extract buffer (8 * offset) 8

/-- The 16-bit number at a byte offset. -/
def u16At (buffer : Bytes) (offset : Nat) : Except ParseError Nat :=
  extract buffer (8 * offset) 16

/-- The low `width` bits of the 16-bit number at a byte offset, for widths up to 16. -/
def lowBits (buffer : Bytes) (offset width : Nat) : Except ParseError Nat :=
  extract buffer (8 * offset + (16 - width)) width

/-- The one-bit field at bit `offset`. -/
def flag (buffer : Bytes) (offset : Nat) : Except ParseError Bool := do
  return (← extract buffer offset 1) == 1

end DvbReceiver.Bits
