/-!
# Packed decimal digits

Times are broadcast as packed decimal digits, two to an octet: `0x23` is 23. A nibble above 9
is taken at its value, so that every octet has a reading.
-/

namespace DvbReceiver

/-- The number whose decimal digits are the two nibbles of an octet. -/
def packedDecimal (octet : Nat) : Nat := 10 * (octet / 16) + octet % 16

end DvbReceiver
