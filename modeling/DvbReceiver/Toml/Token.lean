import DvbReceiver.Text.Digits

/-!
# Tokens of a TOML document

`Token.scan` splits a document into tokens: blanks, line ends, comments, punctuation, texts in
any of the four kinds of quotation, and words, which are runs of the characters of bare keys,
numbers and dates. It fails at a character that no token can hold. Line ends are LF and CR LF;
inside a text both stand for LF.

The readers of quoted texts give the text and how many characters they have read, the closing
quotation marks included.
-/

namespace DvbReceiver.Toml

/-- The smallest parts of a document. -/
inductive Token
  /-- A space or a tab. -/
  | blank (c : Char)
  | newline
  | comment
  | equals
  | comma
  | dot
  | openBracket
  | closeBracket
  | openBrace
  | closeBrace
  /-- A run of letters, digits, and the characters `_`, `+`, `-` and `:`. -/
  | word (chars : List Char)
  /-- A quoted text. Only one on a single line can be a key. -/
  | quoted (text : List Char) (singleLine : Bool)
  deriving DecidableEq, Repr

namespace Token

def isBlank (c : Char) : Bool := c = ' ' || c = '\t'

/-- A character that may stand in a comment or unescaped in a text. -/
def isPlain (c : Char) : Bool :=
  c = '\t' || (0x20 ≤ c.toNat && c.toNat ≠ 0x7F)

def isWordChar (c : Char) : Bool :=
  c.isAlphanum || c = '_' || c = '-' || c = '+' || c = ':'

/-- The character whose number the digits spell, if there are `count` of them and there is such
a character. -/
def numbered? (count : Nat) (digits : List Char) : Option Char := do
  let values ← digits.mapM (Text.digit? 16)
  let number := Text.valueOf 16 values
  if values.length = count ∧ number.isValidChar then some (Char.ofNat number) else none

/-- The character behind a backslash, and how many characters name it. -/
def escape? : List Char → Option (Char × Nat)
  | 'b' :: _ => some ('\x08', 1)
  | 't' :: _ => some ('\t', 1)
  | 'n' :: _ => some ('\n', 1)
  | 'f' :: _ => some ('\x0c', 1)
  | 'r' :: _ => some ('\r', 1)
  | '"' :: _ => some ('"', 1)
  | '\\' :: _ => some ('\\', 1)
  | 'u' :: rest => (numbered? 4 (rest.take 4)).map (·, 5)
  | 'U' :: rest => (numbered? 8 (rest.take 8)).map (·, 9)
  | _ => none

/-- Puts a character before a text that has been read, and counts what it took to write it. -/
def before (c : Char) (count : Nat) (read : List Char × Nat) : List Char × Nat :=
  (c :: read.1, read.2 + count)

/-- Counts characters that add nothing to a text that has been read. -/
def skipped (count : Nat) (read : List Char × Nat) : List Char × Nat :=
  (read.1, read.2 + count)

/-- Reads a text up to the next single quotation mark. -/
def literal : List Char → Option (List Char × Nat)
  | [] => none
  | c :: rest =>
    if c = '\x27' then some ([], 1)
    else if isPlain c then (literal rest).map (before c 1)
    else none

/-- Reads a text with escapes up to the next double quotation mark. -/
def basic : List Char → Option (List Char × Nat)
  | [] => none
  | c :: rest =>
    if c = '"' then some ([], 1)
    else if c = '\\' then
      match escape? rest with
      | some (escaped, count) => (basic (rest.drop count)).map (before escaped (count + 1))
      | none => none
    else if isPlain c then (basic rest).map (before c 1)
    else none
termination_by chars => chars.length
decreasing_by all_goals simp only [List.length_cons, List.length_drop]; omega

/-- The quotation marks that close a text of several lines: three, and up to two before them
that belong to the text. -/
def closing? (mark : Char) (chars : List Char) : Option (List Char × Nat) :=
  let marks := min 5 (chars.takeWhile (· = mark)).length
  if 3 ≤ marks then some (List.replicate (marks - 3) mark, marks) else none

/-- The number of characters of the line end that the characters start with. -/
def lineEnd? : List Char → Option Nat
  | '\n' :: _ => some 1
  | '\r' :: '\n' :: _ => some 2
  | _ => none

/-- Reads a text of several lines up to three single quotation marks. -/
def multiLiteral (chars : List Char) : Option (List Char × Nat) :=
  match closing? '\x27' chars with
  | some closing => some closing
  | none =>
    match chars with
    | '\n' :: rest => (multiLiteral rest).map (before '\n' 1)
    | '\r' :: '\n' :: rest => (multiLiteral rest).map (before '\n' 2)
    | c :: rest => if isPlain c then (multiLiteral rest).map (before c 1) else none
    | [] => none

/-- How a backslash at the end of a line is taken. -/
inductive Joining
  /-- There is none before this point. -/
  | none
  /-- There is one on this line, and only blanks may follow it. -/
  | pending
  /-- There is one on a line before, and nothing but blanks and line ends since. -/
  | joined
  deriving DecidableEq

/-- Reads a text of several lines with escapes up to three double quotation marks. A backslash at
the end of a line takes away the line end and the blanks and line ends after it. -/
def multiBasic (joining : Joining) (chars : List Char) : Option (List Char × Nat) :=
  match joining, chars with
  | _, [] => .none
  | .pending, '\n' :: rest => (multiBasic .joined rest).map (skipped 1)
  | .pending, '\r' :: '\n' :: rest => (multiBasic .joined rest).map (skipped 2)
  | .pending, c :: rest =>
    if isBlank c then (multiBasic .pending rest).map (skipped 1) else .none
  | .joined, '\n' :: rest => (multiBasic .joined rest).map (skipped 1)
  | .joined, '\r' :: '\n' :: rest => (multiBasic .joined rest).map (skipped 2)
  | .joined, ' ' :: rest => (multiBasic .joined rest).map (skipped 1)
  | .joined, '\t' :: rest => (multiBasic .joined rest).map (skipped 1)
  | _, '\n' :: rest => (multiBasic .none rest).map (before '\n' 1)
  | _, '\r' :: '\n' :: rest => (multiBasic .none rest).map (before '\n' 2)
  | _, c :: rest =>
    match closing? '"' (c :: rest) with
    | some closing => some closing
    | .none =>
      if c = '\\' then
        match escape? rest with
        | some (escaped, count) =>
          (multiBasic .none (rest.drop count)).map (before escaped (count + 1))
        | .none => (multiBasic .pending rest).map (skipped 1)
      else if isPlain c then (multiBasic .none rest).map (before c 1)
      else .none
termination_by chars.length
decreasing_by all_goals simp only [List.length_cons, List.length_drop]; omega

/-- A text of several lines does not begin with the line end behind its opening marks. -/
def trimmed (read : List Char → Option (List Char × Nat)) (chars : List Char) :
    Option (List Char × Nat) :=
  let count := (lineEnd? chars).getD 0
  (read (chars.drop count)).map (skipped count)

/-- The token that a text in quotation marks makes, and how many characters follow the first
mark. -/
def quotation? (mark : Char) (rest : List Char) : Option (Token × Nat) :=
  match rest with
  | second :: third :: inner =>
    if second = mark ∧ third = mark then
      let read := if mark = '"' then multiBasic .none else multiLiteral
      (trimmed read inner).map fun (text, count) => (quoted text false, count + 2)
    else single
  | _ => single
where
  /-- A text on a single line. -/
  single : Option (Token × Nat) :=
    (if mark = '"' then basic rest else literal rest).map fun (text, count) =>
      (quoted text true, count)

/-- The token that a character begins, and how many more characters belong to it. -/
def first? (c : Char) (rest : List Char) : Option (Token × Nat) :=
  if isBlank c then some (blank c, 0)
  else if c = '=' then some (equals, 0)
  else if c = ',' then some (comma, 0)
  else if c = '.' then some (dot, 0)
  else if c = '[' then some (openBracket, 0)
  else if c = ']' then some (closeBracket, 0)
  else if c = '\x7b' then some (openBrace, 0)
  else if c = '\x7d' then some (closeBrace, 0)
  else if c = '#' then some (comment, (rest.takeWhile isPlain).length)
  else if c = '"' ∨ c = '\x27' then quotation? c rest
  else if isWordChar c then
    let more := rest.takeWhile isWordChar
    some (word (c :: more), more.length)
  else (lineEnd? (c :: rest)).map fun count => (newline, count - 1)

/-- The tokens of a document. -/
def scan : List Char → Option (List Token)
  | [] => some []
  | c :: rest =>
    match first? c rest with
    | some (token, count) => (scan (rest.drop count)).map (token :: ·)
    | none => none
termination_by chars => chars.length
decreasing_by simp only [List.length_cons, List.length_drop]; omega

end Token

end DvbReceiver.Toml
