import DvbReceiver.Toml.Scalar

/-!
# Values and tables of a TOML document

A table remembers how it came about, because that decides whether more may be put into it: a
table under a header is complete but for sub-tables under headers of their own; a table that a
dotted key opened takes further dotted keys; a table that was only passed on the way to a header
may still get its own header. Inline tables and arrays are complete as they stand.

`Fields.insert?` puts a key under a table, `Fields.openTable?` and `Fields.addElement?` make the
tables of headers; each fails where the key is already taken or may not be extended.
-/

namespace DvbReceiver.Toml

/-- How a table came about. -/
inductive Origin
  /-- It was passed on the way to the table of a header. -/
  | passed
  /-- A dotted key leads through it. -/
  | dotted
  /-- It has a header. -/
  | header
  deriving DecidableEq, Repr

/-- A value of a document. -/
inductive Value
  | text (text : String)
  | scalar (scalar : Scalar)
  | array (items : List Value)
  /-- A table in braces. -/
  | inlineTable (fields : List (String × Value))
  | table (origin : Origin) (fields : List (String × Value))
  /-- The tables of headers in double brackets; only the last of them can still grow. -/
  | tables (earlier : List (List (String × Value))) (last : List (String × Value))

/-- The keys of a table with their values. -/
abbrev Fields := List (String × Value)

namespace Fields

/-- Changes the value of a key, or adds the key. The change may be refused. -/
def alter? (fields : Fields) (key : String) (change : Option Value → Option Value) :
    Option Fields :=
  match fields with
  | [] => (change none).map fun value => [(key, value)]
  | (key', value) :: rest =>
    if key' = key then (change (some value)).map fun value => (key, value) :: rest
    else (alter? rest key change).map ((key', value) :: ·)

/-- Puts a value under a dotted key, whose last part is `key`. -/
def insert? (path : List String) (key : String) (value : Value) (fields : Fields) :
    Option Fields :=
  match path with
  | [] =>
    fields.alter? key fun
      | none => some value
      | some _ => none
  | step :: path =>
    fields.alter? step fun
      | none => (insert? path key value []).map (.table .dotted)
      | some (.table origin inner) =>
        if origin = .header ∨ (path = [] ∧ origin ≠ .dotted) then none
        else (insert? path key value inner).map (.table origin)
      | some (.tables earlier last) =>
        if path = [] then none else (insert? path key value last).map (.tables earlier)
      | some _ => none

/-- Goes along the path of a header and changes the fields of the table there. Tables on the way
are made where they are missing; of an array of tables the last is taken. -/
def descend? (path : List String) (change : Fields → Option Fields) (fields : Fields) :
    Option Fields :=
  match path with
  | [] => change fields
  | step :: path =>
    fields.alter? step fun
      | none => (descend? path change []).map (.table .passed)
      | some (.table origin inner) => (descend? path change inner).map (.table origin)
      | some (.tables earlier last) => (descend? path change last).map (.tables earlier)
      | some _ => none

/-- Makes the table of a header. -/
def openTable? (key : String) (fields : Fields) : Option Fields :=
  fields.alter? key fun
    | none => some (.table .header [])
    | some (.table .passed inner) => some (.table .header inner)
    | some _ => none

/-- Makes the next table of a header in double brackets. -/
def addElement? (key : String) (fields : Fields) : Option Fields :=
  fields.alter? key fun
    | none => some (.tables [] [])
    | some (.tables earlier last) => some (.tables (earlier ++ [last]) [])
    | some _ => none

end Fields

end DvbReceiver.Toml
