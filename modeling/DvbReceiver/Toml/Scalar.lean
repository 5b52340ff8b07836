import DvbReceiver.Text.Digits

/-!
# Numbers, truth values and dates in TOML

`Scalar.ofChars?` reads what stands for a value without quotation marks: an integer of 64 bits,
a floating-point number, `true` or `false`, or a date, a time, or both. Of floating-point numbers
and of dates only that they are well formed is kept.
-/

namespace DvbReceiver.Toml

open Text (digit? valueOf)

/-- A value without quotation marks. -/
inductive Scalar
  | integer (value : Int)
  | float
  | boolean (value : Bool)
  | dateTime
  deriving DecidableEq, Repr

namespace Scalar

/-! ## Digits -/

/-- The digits of a number; an underscore may stand between two of them. -/
def digits? (base : Nat) : List Char → Option (List Nat)
  | [] => none
  | [c] => (digit? base c).map ([·])
  | c :: '_' :: rest => do return (← digit? base c) :: (← digits? base rest)
  | c :: rest => do return (← digit? base c) :: (← digits? base rest)

/-- The decimal digits of a number without leading zeros. -/
def wholeDigits? (chars : List Char) : Option (List Nat) := do
  let digits ← digits? 10 chars
  if digits.head? = some 0 ∧ digits.length ≠ 1 then none else some digits

/-- Splits off a sign; the first part says whether it is a minus. -/
def splitSign : List Char → Bool × List Char
  | '-' :: rest => (true, rest)
  | '+' :: rest => (false, rest)
  | chars => (false, chars)

/-! ## Integers -/

/-- The integer, if it fits into 64 bits with a sign. -/
def inRange? (value : Int) : Option Int :=
  if -Nat.pow 2 63 ≤ value ∧ value < Nat.pow 2 63 then some value else none

/-- Reads an integer: decimal with an optional sign, or in another base behind its mark. -/
def integer? (chars : List Char) : Option Int :=
  match chars with
  | '0' :: 'x' :: rest => ofBase 16 rest
  | '0' :: 'o' :: rest => ofBase 8 rest
  | '0' :: 'b' :: rest => ofBase 2 rest
  | _ => do
    let (negative, rest) := splitSign chars
    let number : Int := valueOf 10 (← wholeDigits? rest)
    inRange? (if negative then -number else number)
where
  /-- An integer without a sign. -/
  ofBase (base : Nat) (chars : List Char) : Option Int := do
    inRange? (valueOf base (← digits? base chars))

/-! ## Floating-point numbers -/

/-- The least number that is too large for a 64-bit float: half a step above the largest. -/
def tooLarge : Nat := (Nat.pow 2 54 - 1) * Nat.pow 2 970

/-- The number with these digits, moved by a power of ten, is too large for a 64-bit float. The
place of the first digit settles it except near the limit. -/
def Overflows (digits : List Nat) (power : Int) : Prop :=
  let digits := digits.dropWhile (· = 0)
  let places := digits.length + power
  if digits = [] ∨ places < 300 then False
  else if 320 < places then True
  else if 0 ≤ power then tooLarge ≤ valueOf 10 digits * Nat.pow 10 power.toNat
  else tooLarge * Nat.pow 10 (-power).toNat ≤ valueOf 10 digits

instance (digits : List Nat) (power : Int) : Decidable (Overflows digits power) := by
  unfold Overflows
  dsimp only
  infer_instance

/-- Reads the part of a number behind the letter of its exponent. -/
def exponent? (chars : List Char) : Option Int := do
  let (negative, rest) := splitSign chars
  let number : Int := valueOf 10 (← digits? 10 rest)
  return if negative then -number else number

/-- Reads a number with a fraction, an exponent or both. A positive number may not overflow. -/
def IsDecimal (chars : List Char) : Bool :=
  let (negative, unsigned) := splitSign chars
  let isMark := fun c : Char => c = 'e' || c = 'E'
  let mantissa := unsigned.takeWhile (!isMark ·)
  let power := (unsigned.dropWhile (!isMark ·)).tail?.map exponent?
  let whole := mantissa.takeWhile (· ≠ '.')
  let fraction := (mantissa.dropWhile (· ≠ '.')).tail?.map (digits? 10)
  match wholeDigits? whole, fraction, power with
  | some _, none, none => false
  | some whole, fraction, power =>
    match fraction.getD (some []), power.getD (some 0) with
    | some fraction, some power =>
      negative || !decide (Overflows (whole ++ fraction) (power - fraction.length))
    | _, _ => false
  | none, _, _ => false

/-- Reads a floating-point number. -/
def IsFloat (chars : List Char) : Bool :=
  let special := String.ofList (splitSign chars).2
  special = "inf" || special = "nan" || IsDecimal chars

/-! ## Dates and times -/

/-- The number that exactly `count` decimal digits spell. -/
def fixed? (count : Nat) (chars : List Char) : Option Nat := do
  let digits ← chars.mapM (digit? 10)
  if digits.length = count then some (valueOf 10 digits) else none

/-- The days of a month in a year of four digits. -/
def monthLength (year month : Nat) : Nat :=
  if month = 2 then
    if year % 4 = 0 ∧ (year % 100 ≠ 0 ∨ year % 400 = 0) then 29 else 28
  else if month = 4 ∨ month = 6 ∨ month = 9 ∨ month = 11 then 30
  else 31

/-- Reads a date such as `1979-05-27`. -/
def IsDate : List Char → Bool
  | [y₁, y₂, y₃, y₄, '-', m₁, m₂, '-', d₁, d₂] =>
    match fixed? 4 [y₁, y₂, y₃, y₄], fixed? 2 [m₁, m₂], fixed? 2 [d₁, d₂] with
    | some year, some month, some day =>
      1 ≤ month && month ≤ 12 && 1 ≤ day && day ≤ monthLength year month
    | _, _, _ => false
  | _ => false

/-- Reads hours and minutes such as `07:32`. -/
def IsClock : List Char → Bool
  | [h₁, h₂, ':', m₁, m₂] =>
    match fixed? 2 [h₁, h₂], fixed? 2 [m₁, m₂] with
    | some hour, some minute => hour ≤ 23 && minute ≤ 59
    | _, _ => false
  | _ => false

/-- Reads a time such as `07:32:00.5`. The second may be a leap second. -/
def IsTime (chars : List Char) : Bool :=
  IsClock (chars.take 5) && seconds (chars.drop 5)
where
  /-- The part of a time behind its minutes. -/
  seconds : List Char → Bool
    | ':' :: s₁ :: s₂ :: rest =>
      (match fixed? 2 [s₁, s₂] with
        | some second => second ≤ 60
        | none => false) &&
      match rest with
      | [] => true
      | '.' :: fraction => !fraction.isEmpty && fraction.all Char.isDigit
      | _ => false
    | _ => false

/-- Reads the distance of a time from UTC, which may be missing. -/
def IsZone : List Char → Bool
  | [] => true
  | ['Z'] | ['z'] => true
  | '+' :: rest | '-' :: rest => IsClock rest
  | _ => false

/-- Reads a date, a time, or a date and a time with the letter `T` between them. -/
def IsDateTime (chars : List Char) : Bool :=
  IsDate chars || IsTime chars ||
    match chars.drop 10 with
    | mark :: rest =>
      let time := rest.takeWhile fun c => c.isDigit || c = ':' || c = '.'
      IsDate (chars.take 10) && (mark = 'T' || mark = 't')
        && IsTime time && IsZone (rest.drop time.length)
    | [] => false

/-- Reads a value without quotation marks. -/
def ofChars? (chars : List Char) : Option Scalar :=
  if chars = ['t', 'r', 'u', 'e'] then some (boolean true)
  else if chars = ['f', 'a', 'l', 's', 'e'] then some (boolean false)
  else if IsDateTime chars then some dateTime
  else if IsFloat chars then some float
  else (integer? chars).map integer

end Scalar

end DvbReceiver.Toml
