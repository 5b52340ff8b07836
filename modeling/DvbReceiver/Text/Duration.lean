import DvbReceiver.Text.Digits

/-!
# Durations as text

Durations are kept in milliseconds. From a second on they are written in seconds with up to three
decimals, `1.5s`; below that in milliseconds, `250ms`; no time at all is `0ns`.
-/

namespace DvbReceiver.Text

/-- The decimals of a number of thousandths, without zeros at the end. -/
def thousandths (number : Nat) : List Char :=
  ((decimal 3 number).toList.reverse.dropWhile (· = '0')).reverse

/-- The text of a number of milliseconds. -/
def duration (milliseconds : Nat) : String :=
  if milliseconds = 0 then "0ns"
  else if milliseconds < 1000 then s!"{milliseconds}ms"
  else
    match thousandths (milliseconds % 1000) with
    | [] => s!"{milliseconds / 1000}s"
    | decimals => s!"{milliseconds / 1000}." ++ String.ofList decimals ++ "s"

end DvbReceiver.Text
