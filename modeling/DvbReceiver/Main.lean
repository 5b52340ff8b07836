import DvbReceiver.CommandLine

/-!
# The program

Reads the file that a command asks for, hands its contents to `CommandLine.outcome`, and prints
what comes of it.
-/

namespace DvbReceiver.CommandLine

/-- The program's names and version. -/
def program : Program where
  call := "dvb-receiver"
  title := "dvb-receiver"
  version := "0.1.0"
  logVariable := "DVB_RECEIVER_LOG"

/-- An error of the operating system, which may be reported as a negative number and, if it is not
one of the usual errors, with words that begin with a small letter. -/
def systemError (number : UInt32) (details : String) : FileError :=
  let number := if number.toNat < Nat.pow 2 31 then number.toNat else Nat.pow 2 32 - number.toNat
  (FileError.usual.find? (·.number = number)).getD ⟨details.capitalize, number⟩

/-- The error that a failure to read a file is. -/
def fileError : IO.Error → FileError
  | .noFileOrDirectory .. => .notFound
  | .inappropriateType _ number details | .permissionDenied _ number details
  | .invalidArgument _ number details | .resourceExhausted _ number details
  | .hardwareFault number details | .otherError number details => systemError number details
  | error => ⟨error.toString, 0⟩

/-- Reads a file. -/
def readFile (path : String) : IO (Except FileError Bytes) := do
  try
    return .ok (← IO.FS.readBinFile path).toList
  catch error =>
    return .error (fileError error)

/-- The files that a command needs, once they have been read. -/
def filesFor (command : Command) : IO Files := do
  match command with
  | .decode file _ | .config file =>
    let contents ← readFile file
    return fun _ => contents
  | .mjd _ => return fun _ => .error .notFound

/-- What is said about arguments that do not fit together. -/
def misuseText : String :=
  "error: unexpected or missing arguments\n\nFor more information, try \x27--help\x27."

end DvbReceiver.CommandLine

open DvbReceiver.CommandLine in
/-- Runs the program. -/
def main (arguments : List String) : IO UInt32 := do
  let files ← match Request.ofArguments arguments with
    | .run command => filesFor command
    | _ => pure fun _ => .error .notFound
  let result := outcome program files arguments
  IO.print result.output
  match result with
  | .failed failure => IO.eprintln failure.text
  | .misused => IO.eprintln misuseText
  | .printed _ => pure ()
  return result.code
