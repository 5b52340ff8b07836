import DvbReceiver.CommandLine.Help
import DvbReceiver.Config.Written
import DvbReceiver.Report
import DvbReceiver.Text.Hex
import DvbReceiver.Text.Number

/-!
# The command line

Three commands: `decode` prints the reports of the sections in a recording, `mjd` the date of a
Modified Julian Date, `config` the settings of a configuration. `Request.outcome` says what a
request prints or how it fails; the contents of files are given to it as a function.
-/

namespace DvbReceiver.CommandLine

/-- Why a file cannot be read: the words and the number of the operating system. -/
structure FileError where
  description : String
  number : Nat
  deriving DecidableEq, Repr

namespace FileError

def notFound : FileError := ⟨"No such file or directory", 2⟩

def notDirectory : FileError := ⟨"Not a directory", 20⟩

def isDirectory : FileError := ⟨"Is a directory", 21⟩

def nameTooLong : FileError := ⟨"File name too long", 36⟩

/-- The usual errors. -/
def usual : List FileError := [notFound, notDirectory, isDirectory, nameTooLong]

def message (error : FileError) : String :=
  s!"{error.description} (os error {error.number})"

end FileError

/-- What a failing command was doing, and why it could not. -/
structure Failure where
  message : String
  cause : Option String := none
  deriving DecidableEq, Repr

/-- The text that a failure leaves for the user. -/
def Failure.text (failure : Failure) : String :=
  s!"Error: {failure.message}"
    ++ failure.cause.elim "" fun cause => s!"\n\nCaused by:\n    {cause}"

/-- What a command line comes to. -/
inductive Outcome
  | printed (text : String)
  | failed (failure : Failure)
  | misused
  deriving DecidableEq, Repr

namespace Outcome

/-- The exit code. -/
def code : Outcome → UInt32
  | printed _ => 0
  | failed _ => 1
  | misused => 2

/-- The text on standard output. Nothing is printed before a command has succeeded. -/
def output : Outcome → String
  | printed text => text
  | _ => ""

end Outcome

/-- The result, or a failure with the error's text as its cause. -/
def orFail {ε α : Type} (message : String) (cause : ε → String) :
    Except ε α → Except Failure α :=
  Except.mapError fun error => { message, cause := some (cause error) }

/-- The contents of a file. -/
abbrev Files := String → Except FileError Bytes

/-- Reads a file. -/
def contents (files : Files) (file : String) : Except Failure Bytes :=
  orFail s!"reading {file}" FileError.message (files file)

/-- The output of documents, each with a line break at its end. -/
def documents (values : List Json) : String :=
  String.join (values.map (·.pretty ++ "\n"))

/-- Prints the reports of the sections that can be decoded; there has to be at least one. -/
def reports (file : String) (data : Bytes) : Except Failure String :=
  match Report.recording data with
  | [] => .error { message := s!"no PAT/PMT/TDT/TOT section found in {file}" }
  | values => .ok (documents values)

/-- Reads a Modified Julian Date, decimal or with `0x` in front of hexadecimal digits. -/
def readMjd (value : String) : Except Text.Number.ReadError Nat :=
  match value.toList with
  | '0' :: 'x' :: digits | '0' :: 'X' :: digits => Text.Number.read 16 (Nat.pow 2 16) digits
  | digits => Text.Number.read 10 (Nat.pow 2 16) digits

/-- The line for the date of a Modified Julian Date. -/
def dateLine (mjd : Nat) : String :=
  let date := ModifiedJulian.date mjd
  s!"{Text.signedDecimal 4 date.year}-{Text.decimal 2 date.month}-{Text.decimal 2 date.day}\n"

/-- What a command prints. -/
def Command.output (files : Files) : Command → Except Failure String
  | .decode file hex => do
    let raw ← contents files file
    if hex then
      reports file
        (← orFail "invalid hex input" Text.Hex.DecodeError.message (Text.Hex.decode raw))
    else reports file raw
  | .mjd value => do
    let mjd ← orFail s!"invalid MJD {Text.Quoted.text value}" Text.Number.ReadError.message
      (readMjd value)
    return dateLine mjd
  | .config file => do
    match Text.Utf8.strict? (← contents files file) with
    | none =>
      .error { message := s!"reading {file}", cause := "stream did not contain valid UTF-8" }
    | some text =>
      match Config.ofToml? text with
      | none => .error { message := s!"parsing {file}" }
      | some settings => .ok (documents [settings.json])

/-- What a request comes to. -/
def Request.outcome (program : Program) (files : Files) : Request → Outcome
  | .run command =>
    match command.output files with
    | .ok text => .printed text
    | .error failure => .failed failure
  | .help topic => .printed (Help.text program topic)
  | .version => .printed program.versionLine
  | .misuse => .misused

/-- What a command line comes to. -/
def outcome (program : Program) (files : Files) (arguments : List String) : Outcome :=
  (Request.ofArguments arguments).outcome program files

end DvbReceiver.CommandLine
