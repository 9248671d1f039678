import FaultTreeExchange.CommandLine.Request

/-!
# Reading arguments

The arguments before a command and those behind it are read in the same way, each with its own
switches and options. The value of an option is the next argument, unless that looks like an option
itself, or the text behind an equals sign. A value that is the next argument is looked at when a
further option or the end is reached; what is wrong behind a command is reported before what is
wrong before it. Behind a double hyphen every argument is a file.
-/

namespace FaultTreeExchange.CommandLine

inductive Switch where
  | quiet
  /-- Allowed everywhere. It adds log lines to the error output, which outcomes leave out, and changes
  nothing else in what is written and reported. -/
  | verbose
  | multiTop
  | stdout
  deriving DecidableEq, Repr

inductive ValueOption where
  | output
  | outDir
  | defaultProbability
  deriving DecidableEq, Repr

/-- What a double hyphen and a name may stand for. -/
inductive LongOption where
  | help
  | version
  | switch (switch : Switch)
  | value (option : ValueOption)
  deriving DecidableEq, Repr

/-- The name of a switch, with its hyphens. -/
def Switch.usage : Switch → String
  | .quiet => "--quiet"
  | .verbose => "--verbose"
  | .multiTop => "--multi-top"
  | .stdout => "--stdout"

/-- The name of an option with a stand-in for its value. -/
def ValueOption.usage : ValueOption → String
  | .output => "--output <OUTPUT>"
  | .outDir => "--out-dir <OUT_DIR>"
  | .defaultProbability => "--default-probability <DEFAULT_PROBABILITY>"

def filesUsage : String := "<FILES>..."

/-- A place for arguments: before a command, or behind one. -/
inductive Level where
  | program
  | translate
  | check
  deriving DecidableEq, Repr

/-- The options that may be given at a level, by their names. -/
def Level.longOptions : Level → List (String × LongOption)
  | .program => [("output", .value .output), ("quiet", .switch .quiet),
      ("verbose", .switch .verbose), ("help", .help), ("version", .version)]
  | .translate => [("output", .value .output), ("quiet", .switch .quiet),
      ("verbose", .switch .verbose), ("help", .help), ("multi-top", .switch .multiTop),
      ("out-dir", .value .outDir), ("stdout", .switch .stdout),
      ("default-probability", .value .defaultProbability)]
  | .check => [("output", .value .output), ("quiet", .switch .quiet),
      ("verbose", .switch .verbose), ("help", .help), ("multi-top", .switch .multiTop)]

/-- The options of one letter that may be given at a level. -/
def Level.shortOptions : Level → List (Char × LongOption)
  | .program => [('h', .help), ('V', .version)]
  | _ => [('h', .help)]

/-- The command whose description is shown at a level. -/
def Level.topic : Level → Option Subcommand
  | .program => none
  | .translate => some .translate
  | .check => some .check

/-- An argument of which it is not yet decided whether it is right. -/
inductive Pending where
  | nothing
  | option (option : ValueOption) (value : Option String)
  | files (values : List String)
  deriving DecidableEq, Repr

structure Reading where
  /-- The options given, in their order. -/
  given : List LongOption
  output : Option OutputFormat
  outDir : Option Path
  defaultProbability : Option Binary64
  files : List Path
  pending : Pending
  deriving DecidableEq, Repr

/-- Why the reading of arguments ends early. -/
inductive Stop where
  | refused (error : UsageError)
  | answered (request : Request)
  deriving DecidableEq, Repr

namespace Reading

def empty : Reading := ⟨[], none, none, none, [], .nothing⟩

def isOn (reading : Reading) (switch : Switch) : Bool :=
  reading.given.contains (.switch switch)

/-- Whether an option that waits for its value is the last argument read. -/
def waiting (reading : Reading) : Option ValueOption :=
  match reading.pending with
  | .option option none => some option
  | _ => none

/-- The value of an option that has not been given yet. -/
def setValue (reading : Reading) (option : ValueOption) (value : String) :
    Except UsageError Reading :=
  if reading.given.contains (.value option) then .error (.repeated option.usage)
  else
    let reading := { reading with given := reading.given ++ [LongOption.value option] }
    match option with
    | .output =>
      if value = "text" then .ok { reading with output := some .text }
      else if value = "json" then .ok { reading with output := some .json }
      else if value.isEmpty then .error (.missingValue option.usage)
      else .error (.invalidValue value option.usage none)
    | .outDir =>
      if value.isEmpty then .error (.missingValue option.usage)
      else .ok { reading with outDir := some ⟨value⟩ }
    | .defaultProbability =>
      match Binary64.ofText? value with
      | none => .error (.invalidValue value option.usage (some s!"'{value}' is not a number"))
      | some probability =>
        if probability.isProbability then
          .ok { reading with defaultProbability := some probability }
        else
          .error (.invalidValue value option.usage
            (some s!"probability must be within [0, 1], got {probability.render}"))

def addFiles (reading : Reading) (values : List String) : Except UsageError Reading :=
  if values.any String.isEmpty then .error (.missingValue filesUsage)
  else .ok { reading with files := reading.files ++ values.map Path.mk }

/-- Decides what is pending. -/
def settle (reading : Reading) : Except UsageError Reading :=
  let settled := { reading with pending := .nothing }
  match reading.pending with
  | .nothing => .ok settled
  | .option option none => .error (.missingValue option.usage)
  | .option option (some value) => settled.setValue option value
  | .files values => settled.addFiles values

/-- Decides what is pending before a description is shown or the like. -/
def settleThen (reading : Reading) (request : Request) : Stop :=
  match reading.settle with
  | .error error => .refused error
  | .ok _ => .answered request

def turnOn (reading : Reading) (switch : Switch) : Except UsageError Reading := do
  let reading ← reading.settle
  if reading.isOn switch then .error (.repeated switch.usage)
  else .ok { reading with given := reading.given ++ [.switch switch] }

/-- A text at which no option is looked for: the value of an option that waits for one, or a
file. -/
def takeText (reading : Reading) (escaped : Bool) (text : String) : Except UsageError Reading :=
  match reading.pending, escaped with
  | .option option none, false => .ok { reading with pending := .option option (some text) }
  | .files values, _ => .ok { reading with pending := .files (values ++ [text]) }
  | _, _ => do
    let reading ← reading.settle
    return { reading with pending := .files [text] }

/-- Carries a refusal on. -/
def orStop {α : Type} : Except UsageError α → Except Stop α
  | .ok value => .ok value
  | .error error => .error (.refused error)

/-- An option with a long name, with the text behind its equals sign if it has one. -/
def takeLong (reading : Reading) (level : Level) (name : String) (value : Option String) :
    Except Stop Reading :=
  match level.longOptions.lookup name, value with
  | none, _ => .error (.refused (.unexpectedArgument ("--" ++ name)))
  | some (.value option), none => do
    let reading ← orStop reading.settle
    return { reading with pending := .option option none }
  | some (.value option), some value => orStop do (← reading.settle).setValue option value
  | some (.switch switch), none => orStop (reading.turnOn switch)
  | some (.switch switch), some value =>
    .error (.refused (.unexpectedValue value switch.usage))
  | some .help, none => .error (reading.settleThen (.help level.topic))
  | some .help, some value => .error (.refused (.unexpectedValue value "--help"))
  | some .version, none => .error (reading.settleThen .version)
  | some .version, some value => .error (.refused (.unexpectedValue value "--version"))

def takeShort (reading : Reading) (level : Level) (letter : Char) : Stop :=
  match level.shortOptions.lookup letter with
  | some .help => reading.settleThen (.help level.topic)
  | some .version => reading.settleThen .version
  | _ => .refused (.unexpectedArgument (String.ofList ['-', letter]))

end Reading

inductive Shape where
  /-- A double hyphen alone. -/
  | escape
  | long (name : String) (value : Option String)
  /-- A hyphen and at least one letter. -/
  | short (letter : Char)
  | plain
  deriving DecidableEq, Repr

/-- The shape of an argument. A hyphen alone is plain. -/
def Shape.of (argument : String) : Shape :=
  match argument.toList with
  | ['-', '-'] => .escape
  | '-' :: '-' :: name =>
    let value := match name.dropWhile (· ≠ '=') with
      | [] => none
      | _ :: value => some (String.ofList value)
    .long (String.ofList (name.takeWhile (· ≠ '='))) value
  | '-' :: letter :: _ => .short letter
  | _ => .plain

namespace Reading

/-- Reads the arguments behind a command. -/
def readCommand (level : Level) (escaped : Bool) (reading : Reading) :
    List String → Except Stop Reading
  | [] => orStop reading.settle
  | argument :: rest =>
    match escaped, Shape.of argument with
    | false, .escape => readCommand level true reading rest
    | false, .long name value => do
      readCommand level false (← reading.takeLong level name value) rest
    | false, .short letter => .error (reading.takeShort level letter)
    | _, _ => do
      readCommand level escaped (← orStop (reading.takeText escaped argument)) rest

/-- A directory for files and the standard output cannot be asked for together. The one given
first is named first. -/
def checkConflict (reading : Reading) : Except UsageError Unit :=
  let rivals : List LongOption := [.value .outDir, .switch .stdout]
  match reading.given.filter rivals.contains with
  | [.value option, .switch switch] => .error (.conflict option.usage switch.usage)
  | [.switch switch, .value option] => .error (.conflict switch.usage option.usage)
  | _ => .ok ()

/-- A command needs files. -/
def checkFiles (reading : Reading) : Except UsageError Unit :=
  if reading.files.isEmpty then .error .missingFiles else .ok ()

/-- How to report, by the arguments behind a command and those before it. -/
def settings (command program : Reading) : Settings where
  format := (command.output.or program.output).getD .text
  quiet := command.isOn .quiet || program.isOn .quiet

/-- Where translated trees go. -/
def destination (reading : Reading) : Destination :=
  if reading.isOn .stdout then .standardOutput
  else
    match reading.outDir with
    | some path => .directory path
    | none => .workingDirectory

/-- What the arguments of a command ask for. -/
def request (level : Level) (program : Reading) (arguments : List String) : Except Stop Request := do
  let reading ← readCommand level false empty arguments
  orStop reading.checkConflict
  orStop reading.checkFiles
  let program ← orStop program.settle
  let multiTop := reading.isOn .multiTop
  match level with
  | .check => return .check (reading.settings program) ⟨reading.files, multiTop⟩
  | _ =>
    return .translate (reading.settings program)
      ⟨reading.files, multiTop, reading.destination, reading.defaultProbability⟩

/-- The description that a path of commands asks for. -/
def helpTopic (arguments : List String) : Except UsageError (Option Subcommand) :=
  match arguments with
  | [] => .ok none
  | first :: rest =>
    match Subcommand.ofName? first, rest with
    | none, _ => .error (.unrecognizedSubcommand first)
    | some command, [] => .ok (some command)
    | some _, second :: _ => .error (.unrecognizedSubcommand second)

/-- What is wrong at the end of arguments without a command. -/
def withoutCommand (reading : Reading) : Stop :=
  match reading.settle with
  | .error error => .refused error
  | .ok reading => .refused (if reading.given.isEmpty then .noArguments else .missingSubcommand)

/-- Reads the arguments before a command, and then those behind it. -/
def readProgram (escaped : Bool) (reading : Reading) : List String → Except Stop Request
  | [] => .error reading.withoutCommand
  | argument :: rest =>
    match escaped, Shape.of argument with
    | false, .escape => readProgram true reading rest
    | false, .long name value => do
      readProgram false (← reading.takeLong .program name value) rest
    | false, .short letter => .error (reading.takeShort .program letter)
    | _, _ =>
      if reading.waiting.isSome && !escaped then
        match reading.takeText false argument with
        | .ok reading => readProgram false reading rest
        | .error error => .error (.refused error)
      else
        match Subcommand.ofName? argument with
        | none => .error (.refused (.unrecognizedSubcommand argument))
        | some command =>
          if escaped then .error (.refused (.unexpectedArgument argument))
          else
            match command with
            | .translate => request .translate reading rest
            | .check => request .check reading rest
            | .help =>
              match helpTopic rest with
              | .ok topic => .error (.answered (.help topic))
              | .error error => .error (.refused error)

end Reading

/-- What a list of arguments asks for, or why it is refused. -/
def readArguments (arguments : List String) : Except UsageError Request :=
  match Reading.readProgram false Reading.empty arguments with
  | .ok request => .ok request
  | .error (.answered request) => .ok request
  | .error (.refused error) => .error error

end FaultTreeExchange.CommandLine
