/-!
# What a command line asks for

A command line names one of three commands and its operand, with flags before and after. It is
read from the left by `Request.ofArguments`, and the first argument that does not fit, or that
asks for help, decides. A flag may be given once before the name of the command and once more
after it. Behind `--` every argument is an operand.
-/

namespace DvbReceiver.CommandLine

/-- What the program can do. -/
inductive Verb
  | decode
  | mjd
  | config
  deriving DecidableEq, Repr

/-- What help can be asked about. -/
inductive Topic
  | program
  | verb (verb : Verb)
  /-- The command that shows help. -/
  | help
  deriving DecidableEq, Repr

/-- The flags. -/
inductive Flag
  | hex
  | verbose
  | help
  | version
  deriving DecidableEq, Repr

/-- A command with its operand. -/
inductive Command
  | decode (file : String) (hex : Bool)
  | mjd (value : String)
  | config (file : String)
  deriving DecidableEq, Repr

/-- What a command line asks for. -/
inductive Request
  | run (command : Command)
  | help (topic : Topic)
  | version
  /-- The arguments do not fit together. -/
  | misuse
  deriving DecidableEq, Repr

namespace Verb

/-- The commands in the order in which they are listed. -/
def all : List Verb := [decode, mjd, config]

def name : Verb → String
  | decode => "decode"
  | mjd => "mjd"
  | config => "config"

/-- The operand may be given to the command. The name of a file is not empty. -/
def Accepts (verb : Verb) (operand : String) : Prop := verb = mjd ∨ operand ≠ ""

instance (verb : Verb) (operand : String) : Decidable (verb.Accepts operand) :=
  inferInstanceAs (Decidable (_ ∨ _))

/-- The command with its operand and the flags that it was given. -/
def command (verb : Verb) (flags : List Flag) (operand : String) : Command :=
  match verb with
  | decode => .decode operand (.hex ∈ flags)
  | mjd => .mjd operand
  | config => .config operand

end Verb

namespace Flag

def all : List Flag := [hex, verbose, help, version]

/-- The name behind two dashes. -/
def name : Flag → String
  | hex => "hex"
  | verbose => "verbose"
  | help => "help"
  | version => "version"

/-- The letter behind a single dash. -/
def letter? : Flag → Option Char
  | hex => none
  | verbose => some 'v'
  | help => some 'h'
  | version => some 'V'

end Flag

namespace Topic

/-- The topics that have a name, in the order in which they are listed. -/
def named : List Topic := Verb.all.map verb ++ [help]

def name : Topic → String
  | program => ""
  | verb inner => inner.name
  | help => "help"

/-- The topic with this name. -/
def ofName? (name : String) : Option Topic :=
  named.find? (·.name = name)

/-- The flags that may stand behind the name. -/
def flags : Topic → List Flag
  | program => [.verbose, .help, .version]
  | verb .decode => [.hex, .verbose, .help]
  | verb _ => [.verbose, .help]
  | help => []

end Topic

/-- An argument by its shape. -/
inductive Argument
  /-- Flags in order, `none` for each that is not known. -/
  | flags (flags : List (Option Flag))
  | endOfFlags
  | operand (text : String)
  deriving DecidableEq, Repr

/-- The shape of an argument. Two dashes introduce the name of a flag, a single dash the letters
of several; a dash alone is an operand. -/
def Argument.ofText (text : String) : Argument :=
  match text.toList with
  | ['-', '-'] => endOfFlags
  | '-' :: '-' :: name => flags [Flag.all.find? (·.name = String.ofList name)]
  | '-' :: letter :: letters =>
    flags ((letter :: letters).map fun c => Flag.all.find? (·.letter? = some c))
  | _ => operand text

namespace Request

/-- Adds flags to those that were given before, or finds what the command line comes to. -/
def noteFlags (topic : Topic) (given : List Flag) :
    List (Option Flag) → Except Request (List Flag)
  | [] => .ok given
  | none :: _ => .error misuse
  | some flag :: rest =>
    if flag ∉ topic.flags ∨ flag ∈ given then .error misuse
    else
      match flag with
      | .help => .error (help topic)
      | .version => .error version
      | _ => noteFlags topic (flag :: given) rest

/-- The request for a command with exactly one operand. -/
def ofOperands (verb : Verb) (flags : List Flag) : List String → Request
  | [operand] => if verb.Accepts operand then run (verb.command flags operand) else misuse
  | _ => misuse

/-- Reads the arguments behind the name of a command. -/
def ofVerb (verb : Verb) (flags : List Flag) (operand? : Option String) :
    List String → Request
  | [] => ofOperands verb flags operand?.toList
  | argument :: rest =>
    match Argument.ofText argument with
    | .flags more =>
      match noteFlags (.verb verb) flags more with
      | .ok flags => ofVerb verb flags operand? rest
      | .error request => request
    | .endOfFlags => ofOperands verb flags (operand?.toList ++ rest)
    | .operand text =>
      if operand?.isNone ∧ verb.Accepts text then ofVerb verb flags (some text) rest
      else misuse

/-- Reads the arguments behind the name of the command that shows help. -/
def ofHelp : List String → Request
  | [] => help .program
  | [name] => (Topic.ofName? name).elim misuse help
  | _ => misuse

/-- Reads the arguments in front of the name of a command. -/
def ofProgram (flags : List Flag) : List String → Request
  | [] => misuse
  | argument :: rest =>
    match Argument.ofText argument with
    | .flags more =>
      match noteFlags .program flags more with
      | .ok flags => ofProgram flags rest
      | .error request => request
    | .endOfFlags => misuse
    | .operand name =>
      match Topic.ofName? name with
      | some (.verb verb) => ofVerb verb [] none rest
      | some .help => ofHelp rest
      | _ => misuse

/-- What a command line asks for. -/
def ofArguments (arguments : List String) : Request := ofProgram [] arguments

end Request

end DvbReceiver.CommandLine
