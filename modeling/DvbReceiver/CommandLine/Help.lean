import DvbReceiver.CommandLine.Request

/-!
# Help

The text that explains the program or one of its commands: what it does, how it is called, and
what may be put on its command line, in two columns.
-/

namespace DvbReceiver.CommandLine

/-- What a program says of itself. -/
structure Program where
  /-- The name by which it is called. -/
  call : String
  /-- The name that stands before its version. -/
  title : String
  version : String
  /-- The environment variable that sets how much is logged. -/
  logVariable : String
  deriving DecidableEq, Repr

/-- The text for a request to show the version. -/
def Program.versionLine (program : Program) : String :=
  s!"{program.title} {program.version}\n"

namespace Help

/-- A word of the command line and what it means. -/
structure Entry where
  word : String
  meaning : String := ""
  deriving DecidableEq, Repr

/-- Entries in two columns under a title. -/
def column (title : String) (entries : List Entry) : List String :=
  let width := (entries.map (·.word.length)).foldl max 0
  (title ++ ":") :: entries.map fun entry =>
    "  " ++ entry.word ++ String.ofList (List.replicate (width - entry.word.length) ' ')
      ++ "  " ++ entry.meaning

/-- What the commands do. -/
def about : Topic → String
  | .program => "PAT/PMT/TDT/TOT section decoder"
  | .verb .decode => "Decode a file of back-to-back sections, one JSON document per section"
  | .verb .mjd => "Print the calendar date of a Modified Julian Date (decimal or 0x-hex)"
  | .verb .config => "Validate a TOML acquisition config and print it as JSON"
  | .help => "Print this message or the help of the given subcommand(s)"

/-- The words behind the name of the program. -/
def usage : Topic → String
  | .program => "[OPTIONS] <COMMAND>"
  | .verb .decode => "decode [OPTIONS] <FILE>"
  | .verb .mjd => "mjd [OPTIONS] <VALUE>"
  | .verb .config => "config [OPTIONS] <FILE>"
  | .help => "help [COMMAND]..."

def operand : Topic → List Entry
  | .program => []
  | .verb .mjd => [⟨"<VALUE>", ""⟩]
  | .verb _ => [⟨"<FILE>", ""⟩]
  | .help => [⟨"[COMMAND]...", "Print help for the subcommand(s)"⟩]

def flag (program : Program) : Flag → Entry
  | .hex => ⟨"    --hex", "The file holds hex text instead of raw bytes"⟩
  | .verbose => ⟨"-v, --verbose", s!"Debug logging ({program.logVariable} overrides)"⟩
  | .help => ⟨"-h, --help", "Print help"⟩
  | .version => ⟨"-V, --version", "Print version"⟩

/-- The commands that can stand behind the name of the program. -/
def commands : Topic → List Entry
  | .program => Topic.named.map fun topic => ⟨topic.name, about topic⟩
  | _ => []

/-- The lines of the help text about a topic. A part without entries is left out. -/
def lines (program : Program) (topic : Topic) : List String :=
  let parts := [
    ("Commands", commands topic),
    ("Arguments", operand topic),
    ("Options", topic.flags.map (flag program))]
  [about topic, "", s!"Usage: {program.call} {usage topic}"]
    ++ (parts.filter (!·.2.isEmpty)).flatMap fun (title, entries) => "" :: column title entries

/-- The help text about a topic. -/
def text (program : Program) (topic : Topic) : String :=
  String.join ((lines program topic).map (· ++ "\n"))

end Help

end DvbReceiver.CommandLine
