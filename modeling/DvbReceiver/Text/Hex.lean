import DvbReceiver.Bytes
import DvbReceiver.Text.Quoted

/-!
# Byte strings as hexadecimal text

Two digits, in either case, stand for an octet. Blanks and line breaks may stand anywhere, also
between the two digits of an octet. `Hex.decode` reads such a text, which is itself given as a
byte string; an odd number of digits is found before a wrong one.
-/

namespace DvbReceiver.Text.Hex

/-- Why a text is not hexadecimal. -/
inductive DecodeError
  /-- The last digit has no partner. -/
  | oddCount
  /-- An octet is no digit. Its position counts only what is not blank. -/
  | badDigit (octet : UInt8) (position : Nat)
  deriving DecidableEq, Repr

/-- The text of an error. An octet is shown as the character of the same number. -/
def DecodeError.message : DecodeError → String
  | oddCount => "Odd number of digits"
  | badDigit octet position =>
    s!"Invalid character {Quoted.character (Char.ofNat octet.toNat)} at position {position}"

/-- The octet is a space, a tab, a line feed, a form feed or a carriage return. -/
def IsBlank (octet : UInt8) : Prop := octet ∈ [0x20, 0x09, 0x0A, 0x0C, 0x0D]

instance (octet : UInt8) : Decidable (IsBlank octet) :=
  inferInstanceAs (Decidable (octet ∈ _))

/-- The value of the digit at a position. -/
def digit (position : Nat) (octet : UInt8) : Except DecodeError Nat :=
  match digit? 16 (Char.ofNat octet.toNat) with
  | some value => .ok value
  | none => .error (.badDigit octet position)

/-- Reads pairs of digits of which the first begins at `position`. -/
def pairs (position : Nat) : Bytes → Except DecodeError Bytes
  | high :: low :: rest => do
    let high ← digit position high
    let low ← digit (position + 1) low
    return UInt8.ofNat (16 * high + low) :: (← pairs (position + 2) rest)
  | _ => .ok []

/-- The byte string that a hexadecimal text stands for. -/
def decode (text : Bytes) : Except DecodeError Bytes :=
  let digits := text.filter fun octet => ¬IsBlank octet
  if digits.length % 2 = 0 then pairs 0 digits else .error .oddCount

end DvbReceiver.Text.Hex
