/-!
# Byte strings

A byte string is a list of octets. Read as one number it is big endian: the first octet
carries the most weight.

The main definitions are

* `Bytes.value`: the big-endian number that a byte string spells;
* `Bytes.ofString`: the UTF-8 octets of a text;
* `Bytes.SameLetters`: equality of byte strings that ignores the case of ASCII letters.
-/

namespace DvbReceiver

/-- A byte string, first octet first. -/
abbrev Bytes := List UInt8

namespace Bytes

/-- The byte string read as one big-endian number. -/
def value (bytes : Bytes) : Nat :=
  bytes.foldl (fun number octet => 256 * number + octet.toNat) 0

/-- The UTF-8 octets of a text. -/
def ofString (text : String) : Bytes :=
  text.toUTF8.data.toList

/-- An ASCII capital becomes the small letter, and every other octet stays. -/
def toSmall (octet : UInt8) : UInt8 :=
  if 0x41 ≤ octet ∧ octet ≤ 0x5A then octet + 0x20 else octet

/-- The two byte strings differ at most in the case of ASCII letters. -/
def SameLetters (left right : Bytes) : Prop :=
  left.map toSmall = right.map toSmall

instance (left right : Bytes) : Decidable (SameLetters left right) :=
  inferInstanceAs (Decidable (left.map toSmall = right.map toSmall))

end Bytes

end DvbReceiver
