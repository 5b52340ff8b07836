import DvbReceiver.Text.Digits

/-!
# Numbers from text

`Number.read` reads a natural number with digits of a given base, after an optional plus sign,
and only below a limit. The text is worked through from the left, so of two faults the one that
shows first counts; a character that is no digit shows before the number it would have made.
-/

namespace DvbReceiver.Text.Number

/-- Why a text is no number. -/
inductive ReadError
  | empty
  | badDigit
  | tooLarge
  deriving DecidableEq, Repr

/-- The text of an error. -/
def ReadError.message : ReadError → String
  | empty => "cannot parse integer from empty string"
  | badDigit => "invalid digit found in string"
  | tooLarge => "number too large to fit in target type"

/-- Reads further digits of a number whose digits so far make `number`. -/
def digits (base limit number : Nat) : List Char → Except ReadError Nat
  | [] => .ok number
  | c :: rest =>
    match digit? base c with
    | none => .error .badDigit
    | some digit =>
      if base * number + digit < limit then digits base limit (base * number + digit) rest
      else .error .tooLarge

/-- Reads a number below `limit`. A sign alone is a wrong digit. -/
def read (base limit : Nat) : List Char → Except ReadError Nat
  | [] => .error .empty
  | '+' :: c :: rest => digits base limit 0 (c :: rest)
  | chars => digits base limit 0 chars

end DvbReceiver.Text.Number
