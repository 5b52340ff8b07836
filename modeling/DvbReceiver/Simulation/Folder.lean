import DvbReceiver.CommandLine

/-!
# A folder with a single file

The files that a command line sees when it is run in a folder that holds one file or none.
`Folder.read` follows a path from there, part by part, as an operating system does; outside the
folder only directories on the way up are known.
-/

namespace DvbReceiver.Simulation

open CommandLine

/-- A folder with at most one file. -/
structure Folder where
  /-- The name that the file has if there is one. -/
  name : String
  contents : Option Bytes := none
  deriving DecidableEq, Repr

namespace Folder

/-- The most octets that the name of a file, and a whole path, can have. -/
def longestName : Nat := 255

def longestPath : Nat := 4095

/-- Follows the parts of a path from the folder itself, or from above it. -/
def follow (folder : Folder) (above : Bool) : List String → Except FileError Bytes
  | [] => .error .isDirectory
  | part :: rest =>
    if part = "" ∨ part = "." then follow folder above rest
    else if part = ".." then follow folder true rest
    else if longestName < part.utf8ByteSize then .error .nameTooLong
    else
      match folder.contents with
      | none => .error .notFound
      | some contents =>
        if above ∨ part ≠ folder.name then .error .notFound
        else if rest.isEmpty then .ok contents
        else .error .notDirectory

/-- Reads the file that a path leads to. -/
def read (folder : Folder) (path : String) : Except FileError Bytes :=
  if path = "" then .error .notFound
  else if longestPath < path.utf8ByteSize then .error .nameTooLong
  else follow folder (path.front = '/') (path.splitOn "/")

end Folder

end DvbReceiver.Simulation
