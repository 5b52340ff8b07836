import DvbReceiver.Bits

/-!
# Bit offsets as addresses

Offsets are addresses, numbers of 64 bits, and so is every number that is reckoned from them: the
place of a field in bits and the place behind it. A reader that would come to a greater number has
no answer, not even an error, and ends the program.

The readers here keep to that, and otherwise they are those of `Bits`. The decoders of tables use
the latter directly: they look at small offsets only.
-/

namespace DvbReceiver.Bits.Address

/-- The width of an address. -/
def addressBits : Nat := 64

/-- An answer, or none where a number on the way to it is no address. -/
abbrev Addressed (α : Type) := ExceptT ParseError Option α

/-- The number, if it is an address. -/
def address (number : Nat) : Option Nat :=
  if number < Nat.pow 2 addressBits then some number else none

/-- A number lessened by another, if it is not the smaller of the two. -/
def lessened (number less : Nat) : Option Nat :=
  if less ≤ number then some (number - less) else none

/-- What a reader says. -/
def answer {α : Type} (result : Except ParseError α) : Addressed α := .mk (some result)

/-- The field of `width` bits that starts at bit `offset`. Its width is looked at first. -/
def extract (buffer : Bytes) (offset width : Nat) : Addressed Nat := do
  if width = 0 ∨ 32 < width then throw (.invalidWidth width) else
    let _ ← address (offset + width)
    answer (Bits.extract buffer offset width)

/-- The field of `width` bits that starts at a place that was reckoned from an offset. -/
def fieldAt (buffer : Bytes) (place width : Nat) : Addressed Nat := do
  let place ← address place
  extract buffer place width

/-- The octet at a byte offset. -/
def u8At (buffer : Bytes) (offset : Nat) : Addressed Nat :=
  fieldAt buffer (8 * offset) 8

/-- The 16-bit number at a byte offset. -/
def u16At (buffer : Bytes) (offset : Nat) : Addressed Nat :=
  fieldAt buffer (8 * offset) 16

/-- The low `width` bits of the 16-bit number at a byte offset. There is no answer for a width that
is greater than that of the number. -/
def lowBits (buffer : Bytes) (offset width : Nat) : Addressed Nat := do
  let place ← address (8 * offset)
  let skipped ← lessened 16 width
  fieldAt buffer (place + skipped) width

end DvbReceiver.Bits.Address
