/-!
# Numbers as digits

Text of natural numbers in a base up to sixteen, padded with leading zeros to a least width.
A number that needs more digits than the width keeps them all. `digit?` reads a digit, in either
case, and `valueOf` puts digits together.
-/

namespace DvbReceiver.Text

/-- The digits of `number` in `base`, at least `width` of them. -/
def padded (base width number : Nat) : String :=
  let digits := Nat.toDigits base number
  String.ofList (List.replicate (width - digits.length) '0' ++ digits)

/-- Decimal digits, at least `width` of them. -/
def decimal (width number : Nat) : String := padded 10 width number

/-- Capital hexadecimal digits, at least `width` of them. -/
def capitalHex (width number : Nat) : String :=
  String.ofList ((padded 16 width number).toList.map Char.toUpper)

/-- Small hexadecimal digits without leading zeros. -/
def hex (number : Nat) : String := padded 16 1 number

/-- An integer in decimal, at least `width` characters wide with its sign, zeros after the sign. -/
def signedDecimal (width : Nat) : Int → String
  | .ofNat number => decimal width number
  | .negSucc number => "-" ++ decimal (width - 1) (number + 1)

/-- The value of a character as a digit of a base up to sixteen. -/
def digit? (base : Nat) (c : Char) : Option Nat :=
  let value :=
    if '0' ≤ c ∧ c ≤ '9' then c.toNat - '0'.toNat
    else if 'a' ≤ c ∧ c ≤ 'f' then c.toNat - 'a'.toNat + 10
    else if 'A' ≤ c ∧ c ≤ 'F' then c.toNat - 'A'.toNat + 10
    else 16
  if value < base then some value else none

/-- The number that digits spell, the first of them the highest. -/
def valueOf (base : Nat) (digits : List Nat) : Nat :=
  digits.foldl (base * · + ·) 0

end DvbReceiver.Text
