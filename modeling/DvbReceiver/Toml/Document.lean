import DvbReceiver.Toml.Token
import DvbReceiver.Toml.Value

/-!
# TOML documents

A document is a list of statements: keys with values, and headers that say to which table the
keys after them belong. `Document.parse?` reads the tokens of a text into statements, carries
them out on an empty table, and gives the table.
-/

namespace DvbReceiver.Toml

namespace Token

def isSpace : Token → Bool
  | blank _ => true
  | _ => false

/-- What may stand around the items of an array. -/
def isFiller : Token → Bool
  | blank _ | newline | comment => true
  | _ => false

/-- The text of a key or of a part of a dotted key. -/
def keyPart? : Token → Option String
  | word chars =>
    if chars.all fun c => c.isAlphanum || c = '_' || c = '-' then some (String.ofList chars)
    else none
  | quoted text true => some (String.ofList text)
  | _ => none

/-- The characters of a token that can be part of a value without quotation marks. -/
def valueChars? : Token → Option (List Char)
  | word chars => some chars
  | dot => some ['.']
  | _ => none

end Token

open Token in
/-- The parts of a dotted key. -/
def keyParts? : List Token → Option (List String)
  | [token] => token.keyPart?.map ([·])
  | token :: dot :: rest => do return (← token.keyPart?) :: (← keyParts? rest)
  | _ => none

/-- The parts of a dotted key in order, the last part by itself. Blanks do not count. -/
def key? (tokens : List Token) : Option (List String × String) := do
  let parts ← keyParts? (tokens.filter (!·.isSpace))
  -- deeper keys and values are refused
  if parts.length < 80 then
    return (parts.dropLast, ← parts.getLast?)
  else none

/-- How deep arrays and inline tables may be nested. -/
def maxDepth : Nat := 79

/-- What is left of tokens of which at least one has been read. -/
abbrev Rest (tokens : List Token) := { rest : List Token // rest.length < tokens.length }

/-- Reads a value without quotation marks. A date and a time may have a single space between
them. -/
def scalar? (tokens : List Token) : Option (Scalar × Rest tokens) :=
  let run := tokens.takeWhile (·.valueChars?.isSome)
  let chars := (run.filterMap Token.valueChars?).flatten
  let after := tokens.drop run.length
  if nonempty : 0 < run.length ∧ run.length ≤ tokens.length then
    let time := (after.drop 1).takeWhile (·.valueChars?.isSome)
    if after.head? = some (.blank ' ') ∧ Scalar.IsDate chars ∧ 0 < time.length then
      (Scalar.ofChars? (chars ++ 'T' :: (time.filterMap Token.valueChars?).flatten)).map
        (·, ⟨after.drop (1 + time.length), by simp only [after, List.length_drop]; omega⟩)
    else
      (Scalar.ofChars? chars).map
        (·, ⟨after, by simp only [after, List.length_drop]; omega⟩)
  else none

theorem length_dropWhile_le {α : Type} (p : α → Bool) (items : List α) :
    (items.dropWhile p).length ≤ items.length :=
  (List.dropWhile_suffix p).length_le

mutual

/-- Reads a value inside `maxDepth - depth` brackets. -/
def value? (depth : Nat) (tokens : List Token) : Option (Value × Rest tokens) :=
  match tokens with
  | .quoted text _ :: rest => some (.text (String.ofList text), ⟨rest, by simp⟩)
  | .openBracket :: rest =>
    if depth = 0 then none
    else (items? (depth - 1) rest).map fun (items, after) =>
      (.array items, ⟨after, by have := after.2; simp only [List.length_cons]; omega⟩)
  | .openBrace :: rest =>
    if depth = 0 then none
    else
      match _h : rest.dropWhile (·.isSpace) with
      | .closeBrace :: after =>
        some (.inlineTable [], ⟨after, by
          have := length_dropWhile_le (·.isSpace) rest
          rw [_h] at this
          simp only [List.length_cons] at this ⊢
          omega⟩)
      | _ =>
        (fields? (depth - 1) [] rest).map fun (fields, after) =>
          (.inlineTable fields, ⟨after, by have := after.2; simp only [List.length_cons]; omega⟩)
  | tokens => (scalar? tokens).map fun (scalar, rest) => (.scalar scalar, rest)
termination_by 2 * tokens.length
decreasing_by all_goals simp only [List.length_cons]; omega

/-- Reads the items of an array up to its closing bracket. A comma may follow the last item. -/
def items? (depth : Nat) (tokens : List Token) : Option (List Value × Rest tokens) :=
  let start := tokens.dropWhile (·.isFiller)
  have hstart : start.length ≤ tokens.length := length_dropWhile_le ..
  match _h : start with
  | .closeBracket :: rest =>
    some ([], ⟨rest, by simp only [List.length_cons] at hstart; omega⟩)
  | start =>
    match value? depth start with
    | none => none
    | some (item, ⟨rest, hrest⟩) =>
      have hnext : (rest.dropWhile (·.isFiller)).length ≤ rest.length := length_dropWhile_le ..
      match _h : rest.dropWhile (·.isFiller) with
      | .closeBracket :: after =>
        some ([item], ⟨after, by rw [_h, List.length_cons] at hnext; omega⟩)
      | .comma :: after =>
        have hafter : after.length < tokens.length := by
          rw [_h, List.length_cons] at hnext; omega
        (items? depth after).map fun (items, rest) =>
          (item :: items, ⟨rest, Nat.lt_trans rest.2 hafter⟩)
      | _ => none
termination_by 2 * tokens.length + 1
decreasing_by
  · have : start.length ≤ tokens.length := hstart
    omega
  · omega

/-- Reads the keys and values of an inline table up to its closing brace, behind those of
`read`. -/
def fields? (depth : Nat) (read : Fields) (tokens : List Token) : Option (Fields × Rest tokens) :=
  let name := tokens.takeWhile (· ≠ .equals)
  match _h : tokens.dropWhile (· ≠ .equals) with
  | [] => none
  | _ :: behind =>
    have hbehind : behind.length < tokens.length := by
      have := length_dropWhile_le (· ≠ .equals) tokens
      rw [_h, List.length_cons] at this
      omega
    have hspace : (behind.dropWhile (·.isSpace)).length ≤ behind.length := length_dropWhile_le ..
    match key? name, value? depth (behind.dropWhile (·.isSpace)) with
    | some (path, key), some (value, ⟨rest, hrest⟩) =>
      match Fields.insert? path key value read with
      | none => none
      | some read =>
        have hnext : (rest.dropWhile (·.isSpace)).length ≤ rest.length := length_dropWhile_le ..
        match _h : rest.dropWhile (·.isSpace) with
        | .closeBrace :: after =>
          some (read, ⟨after, by rw [_h, List.length_cons] at hnext; omega⟩)
        | .comma :: after =>
          have hafter : after.length < tokens.length := by
            rw [_h, List.length_cons] at hnext; omega
          (fields? depth read after).map fun (fields, rest) =>
            (fields, ⟨rest, Nat.lt_trans rest.2 hafter⟩)
        | _ => none
    | _, _ => none
termination_by 2 * tokens.length + 1
decreasing_by all_goals omega

end

/-- What a document says in one line, or in several where a value spans them. -/
inductive Statement
  /-- A value under a dotted key of the present table. -/
  | assign (path : List String) (key : String) (value : Value)
  /-- The keys that follow belong to this table. -/
  | header (path : List String) (key : String)
  /-- The keys that follow belong to a new table at the end of this array. -/
  | element (path : List String) (key : String)

/-- What follows the end of the line. Only blanks and a comment may come before it. -/
def lineRest? (tokens : List Token) : Option { rest : List Token // rest.length ≤ tokens.length } :=
  let afterBlanks := tokens.dropWhile (·.isSpace)
  have hblanks : afterBlanks.length ≤ tokens.length := length_dropWhile_le ..
  let afterComment := if afterBlanks.head? = some .comment then afterBlanks.tail else afterBlanks
  have hcomment : afterComment.length ≤ afterBlanks.length := by
    simp only [afterComment]
    split <;> simp
  match _h : afterComment with
  | [] => some ⟨[], Nat.zero_le _⟩
  | .newline :: rest =>
    some ⟨rest, by simp only [List.length_cons] at hcomment; omega⟩
  | _ => none

/-- Reads the key of a header with `count` brackets, behind the opening ones, up to the end of
its line. -/
def header? (count : Nat) (tokens : List Token) :
    Option ((List String × String) × { rest : List Token // rest.length ≤ tokens.length }) := do
  let behind := tokens.dropWhile (· ≠ .closeBracket)
  have hbehind : behind.length ≤ tokens.length := length_dropWhile_le ..
  if behind.take count = List.replicate count .closeBracket then
    let ⟨rest, hrest⟩ ← lineRest? (behind.drop count)
    return (← key? (tokens.takeWhile (· ≠ .closeBracket)),
      ⟨rest, by simp only [List.length_drop] at hrest; omega⟩)
  else none

/-- Reads a key with its value up to the end of its line. -/
def assign? (tokens : List Token) : Option (Statement × Rest tokens) :=
  match _h : tokens.dropWhile (· ≠ .equals) with
  | [] => none
  | _ :: behind => do
    have hbehind : behind.length < tokens.length := by
      have := length_dropWhile_le (· ≠ .equals) tokens
      rw [_h, List.length_cons] at this
      omega
    have hspace : (behind.dropWhile (·.isSpace)).length ≤ behind.length := length_dropWhile_le ..
    let (path, key) ← key? (tokens.takeWhile (· ≠ .equals))
    let (value, ⟨rest, hrest⟩) ← value? maxDepth (behind.dropWhile (·.isSpace))
    let ⟨rest, hline⟩ ← lineRest? rest
    return (.assign path key value, ⟨rest, by omega⟩)

/-- Reads the statements of a document. -/
def statements? (tokens : List Token) : Option (List Statement) :=
  match tokens with
  | [] => some []
  | .blank _ :: rest => statements? rest
  | .newline :: rest => statements? rest
  | .comment :: rest => statements? rest
  | .openBracket :: .openBracket :: rest =>
    match header? 2 rest with
    | none => none
    | some ((path, key), ⟨rest, _⟩) => (statements? rest).map (.element path key :: ·)
  | .openBracket :: rest =>
    match header? 1 rest with
    | none => none
    | some ((path, key), ⟨rest, _⟩) => (statements? rest).map (.header path key :: ·)
  | tokens =>
    match assign? tokens with
    | none => none
    | some (statement, ⟨rest, _⟩) => (statements? rest).map (statement :: ·)
termination_by tokens.length
decreasing_by all_goals grind

/-- The whole table of a document while it is built, and the path of the present table. -/
structure Document where
  fields : Fields := []
  present : List String := []

namespace Document

/-- Carries out a statement. -/
def carryOut? (document : Document) : Statement → Option Document
  | .assign path key value => do
    return { document with
      fields := ← document.fields.descend? document.present (Fields.insert? path key value) }
  | .header path key => do
    return {
      fields := ← document.fields.descend? path (Fields.openTable? key)
      present := path ++ [key] }
  | .element path key => do
    return {
      fields := ← document.fields.descend? path (Fields.addElement? key)
      present := path ++ [key] }

/-- A mark of byte order that may stand before a text. -/
def byteOrderMark : Char := '\uFEFF'

/-- The table that a text describes. -/
def parse? (text : String) : Option Fields := do
  let chars := text.toList
  let chars := if chars.head? = some byteOrderMark then chars.tail else chars
  let statements ← statements? (← Token.scan chars)
  let document ← statements.foldlM carryOut? {}
  return document.fields

end Document

end DvbReceiver.Toml
