import DvbReceiver.Text.Digits
import DvbReceiver.Text.Visible

/-!
# Quoted text in messages

A message shows a text or a character that it complains about in quotation marks, double ones
around a text and single ones around a character. Inside, the enclosing mark and the backslash
stand behind a backslash, NUL, tab and the two line breaks are written by a letter or digit, and
a character that cannot be seen is written by its code point in hexadecimal digits.
-/

namespace DvbReceiver.Text.Quoted

/-- How a character is written between two marks. -/
def escaped (mark c : Char) : List Char :=
  if c = mark ∨ c = '\\' then ['\\', c]
  else if c = '\x00' then ['\\', '0']
  else if c = '\t' then ['\\', 't']
  else if c = '\r' then ['\\', 'r']
  else if c = '\n' then ['\\', 'n']
  else if IsVisible c then [c]
  else ['\\', 'u', '\x7b'] ++ (hex c.toNat).toList ++ ['\x7d']

/-- Characters between two marks. -/
def between (mark : Char) (chars : List Char) : String :=
  String.ofList (mark :: chars.flatMap (escaped mark) ++ [mark])

/-- A text in double quotation marks. -/
def text (text : String) : String := between '"' text.toList

/-- A character in single quotation marks. -/
def character (c : Char) : String := between '\x27' [c]

end DvbReceiver.Text.Quoted
