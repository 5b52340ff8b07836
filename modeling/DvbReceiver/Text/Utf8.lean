import DvbReceiver.Bytes

/-!
# UTF-8

The first octet of a character says how many continuation octets follow and in which range the
first of them lies; the others lie in `0x80`–`0xBF`. `Utf8.scan` reads a byte string as a row of
characters and of broken runs, where a broken run is the longest beginning of a character, or a
single octet that begins none. `Utf8.strict?` accepts a byte string without broken runs;
`Utf8.lossy` puts U+FFFD in the place of each.
-/

namespace DvbReceiver.Text.Utf8

/-- What the first octet of a character announces. -/
structure Lead where
  /-- How many continuation octets follow. -/
  tail : Nat
  /-- The least and the greatest first continuation octet. -/
  low : UInt8 := 0x80
  high : UInt8 := 0xBF
  /-- The bits of the character that the first octet holds. -/
  bits : Nat
  deriving DecidableEq, Repr

/-- What an octet announces as the first of a character, if it can be one. -/
def lead? (octet : UInt8) : Option Lead :=
  let number := octet.toNat
  if octet < 0x80 then some { tail := 0, bits := number }
  else if octet < 0xC2 then none
  else if octet < 0xE0 then some { tail := 1, bits := number % 32 }
  else if octet = 0xE0 then some { tail := 2, low := 0xA0, bits := number % 16 }
  else if octet = 0xED then some { tail := 2, high := 0x9F, bits := number % 16 }
  else if octet < 0xF0 then some { tail := 2, bits := number % 16 }
  else if octet = 0xF0 then some { tail := 3, low := 0x90, bits := number % 8 }
  else if octet < 0xF4 then some { tail := 3, bits := number % 8 }
  else if octet = 0xF4 then some { tail := 3, high := 0x8F, bits := number % 8 }
  else none

/-- Reads the continuation octets that are still owed, the next of them between `low` and `high`.
Without a fitting octet the run is broken and that octet is left unread. -/
def tail (bits : Nat) (low high : UInt8) : Nat → Bytes → Option Char × Bytes
  | 0, rest => (some (Char.ofNat bits), rest)
  | _ + 1, [] => (none, [])
  | owed + 1, octet :: rest =>
    if low ≤ octet ∧ octet ≤ high then
      tail (64 * bits + octet.toNat % 64) 0x80 0xBF owed rest
    else (none, octet :: rest)

theorem length_tail_le (bits : Nat) (low high : UInt8) (owed : Nat) (bytes : Bytes) :
    (tail bits low high owed bytes).2.length ≤ bytes.length := by
  induction owed generalizing bits low high bytes with
  | zero => simp [tail]
  | succ owed ih =>
    cases bytes with
    | nil => simp [tail]
    | cons octet rest =>
      simp only [tail]
      split
      · exact Nat.le_succ_of_le (ih _ _ _ rest)
      · simp

/-- The characters of a byte string in order, `none` for each broken run. -/
def scan : Bytes → List (Option Char)
  | [] => []
  | octet :: rest =>
    match lead? octet with
    | none => none :: scan rest
    | some lead =>
      let next := tail lead.bits lead.low lead.high lead.tail rest
      next.1 :: scan next.2
termination_by bytes => bytes.length
decreasing_by
  · simp
  · exact Nat.lt_succ_of_le (length_tail_le ..)

/-- The character that stands for what cannot be read. -/
def replacement : Char := '\uFFFD'

/-- The text with a replacement character for each broken run. -/
def lossy (bytes : Bytes) : String :=
  String.ofList ((scan bytes).map (·.getD replacement))

/-- The text, if the byte string is nothing but characters. -/
def strict? (bytes : Bytes) : Option String :=
  ((scan bytes).mapM id).map String.ofList

end DvbReceiver.Text.Utf8
