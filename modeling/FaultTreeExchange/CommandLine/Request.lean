import FaultTreeExchange.Binary64.Shortest
import FaultTreeExchange.Path.Basic
import FaultTreeExchange.Terminal.Styled

/-!
# Requests of the command line

What a list of arguments asks for, and why it may ask for nothing.
-/

namespace FaultTreeExchange.CommandLine

open FaultTreeExchange.Terminal

/-- The form of reports. -/
inductive OutputFormat where
  | text
  | json
  deriving DecidableEq, Repr

/-- How to report. -/
structure Settings where
  format : OutputFormat
  quiet : Bool
  deriving DecidableEq, Repr

/-- Where translated trees go. -/
inductive Destination where
  | standardOutput
  /-- A file for each input in the working directory. -/
  | workingDirectory
  /-- A file for each input in a directory that is made if it is missing. -/
  | directory (path : Path)
  deriving DecidableEq, Repr

/-- Files to translate, and how. -/
structure TranslateRequest where
  files : List Path
  multiTop : Bool
  destination : Destination
  defaultProbability : Option Binary64
  deriving DecidableEq, Repr

/-- Files to check, and how. -/
structure CheckRequest where
  files : List Path
  multiTop : Bool
  deriving DecidableEq, Repr

inductive Subcommand where
  | translate
  | check
  | help
  deriving DecidableEq, Repr

def Subcommand.name : Subcommand → String
  | .translate => "translate"
  | .check => "check"
  | .help => "help"

def Subcommand.ofName? (name : String) : Option Subcommand :=
  [.translate, .check, .help].find? fun command => command.name = name

/-- What a list of arguments asks for. -/
inductive Request where
  | translate (settings : Settings) (request : TranslateRequest)
  | check (settings : Settings) (request : CheckRequest)
  | version
  /-- The description of the program, or of one of its commands. -/
  | help (topic : Option Subcommand)
  deriving DecidableEq, Repr

/-- Why a list of arguments is refused. Options are quoted in the way they are to be used. -/
inductive UsageError where
  | noArguments
  | missingSubcommand
  | unrecognizedSubcommand (text : String)
  | unexpectedArgument (text : String)
  | unexpectedValue (value option : String)
  | repeated (option : String)
  | missingValue (option : String)
  | invalidValue (value option : String) (reason : Option String)
  | conflict (option other : String)
  | missingFiles
  deriving DecidableEq, Repr

/-- The description of the program in one line. -/
def about : String :=
  "Translate Aralia fault-tree descriptions to Open-PSA MEF XML"

/-- What is wrong, without the word that introduces it. -/
def UsageError.message : UsageError → List Span
  | .noArguments => [.plain about]
  | .missingSubcommand =>
    [.plain "'", .faulty "aralia", .plain "' requires a subcommand but one was not provided"]
  | .unrecognizedSubcommand text =>
    [.plain "unrecognized subcommand '", .faulty text, .plain "'"]
  | .unexpectedArgument text =>
    [.plain "unexpected argument '", .faulty text, .plain "' found"]
  | .unexpectedValue value option =>
    [.plain "unexpected value '", .faulty value, .plain "' for '", .literal option,
      .plain "' found; no more were expected"]
  | .repeated option =>
    [.plain "the argument '", .faulty option, .plain "' cannot be used multiple times"]
  | .missingValue option =>
    [.plain "a value is required for '", .faulty option, .plain "' but none was supplied"]
  | .invalidValue value option reason =>
    [.plain "invalid value '", .faulty value, .plain "' for '", .literal option, .plain "'"] ++
      reason.toList.map fun reason => .plain s!": {reason}"
  | .conflict option other =>
    [.plain "the argument '", .faulty option, .plain "' cannot be used with '", .faulty other,
      .plain "'"]
  | .missingFiles => [.plain "the following required arguments were not provided:"]

/-- The hint that follows an error. -/
def helpHint : List Span :=
  [.plain "\n\nFor more information, try '", .literal "--help", .plain "'.\n"]

/-- The report of an error: the word that introduces it, what is wrong, and a hint. -/
def UsageError.report (error : UsageError) : String :=
  plainText ([.label "error:", .plain " "] ++ error.message ++ helpHint)

end FaultTreeExchange.CommandLine
