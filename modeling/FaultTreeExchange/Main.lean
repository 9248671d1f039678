import FaultTreeExchange.CommandLine.Run

/-!
# The program

Runs the command line on the files of the machine.
-/

namespace FaultTreeExchange.CommandLine

/-- Whether a code of a failure is a given one. Some operations give the code with its sign
changed. -/
def isCode (code wanted : UInt32) : Bool :=
  code = wanted || code = 0 - wanted

/-- The description of a failed operation on files. -/
def describeFailure : IO.Error → String
  | .noFileOrDirectory .. => FileFault.message .notFound
  | .alreadyExists .. => FileFault.message .alreadyExists
  | .inappropriateType _ code _ =>
    if isCode code 21 then FileFault.message .isDirectory else FileFault.message .notDirectory
  | .invalidArgument file code details =>
    if isCode code 36 then FileFault.message .nameTooLong
    else toString (IO.Error.invalidArgument file code details)
  | failure => toString failure

/-- The value of an action, or the description of its failure. -/
def attempt {α : Type} (action : IO α) : IO (Except String α) := do
  match ← action.toBaseIO with
  | .ok value => return .ok value
  | .error failure => return .error (describeFailure failure)

def decodeText (content : ByteArray) : Except String String :=
  match String.fromUTF8? content with
  | some text => .ok text
  | none => .error (FileFault.message .invalidText)

def isDirectory (path : Path) : IO Bool := do
  match ← (IO.FS.realPath path.text).toBaseIO with
  | .ok place => place.isDir
  | .error _ => return false

/-- A directory that cannot be made is no failure if there is one already. -/
def allowExisting (path : Path) : Except String Unit → IO (Except String Unit)
  | .ok _ => return .ok ()
  | .error reason => return if ← isDirectory path then .ok () else .error reason

/-- Makes a directory at a path and, where they are missing, at the paths around it, the nearest one
first. -/
def makeAll (path : Path) : List Path → IO (Except String Unit)
  | [] => return .ok ()
  | parent :: ancestors => do
    let made ← attempt (IO.FS.createDir path.text)
    match made with
    | .ok _ => return .ok ()
    | .error reason =>
      if reason = FileFault.message .notFound then
        match ← makeAll parent ancestors with
        | .error reason => return .error reason
        | .ok _ => allowExisting path (← attempt (IO.FS.createDir path.text))
      else allowExisting path made

def machineAccess : FileAccess IO where
  read path := do
    match ← attempt (IO.FS.readBinFile path.text) with
    | .ok content => return decodeText content
    | .error reason => return .error reason
  makeDirectories path := makeAll path path.ancestors
  write path text := attempt (IO.FS.writeFile path.text text)

end FaultTreeExchange.CommandLine

open FaultTreeExchange.CommandLine in
/-- The entry of the program. -/
def main (arguments : List String) : IO UInt32 := do
  let outcome ← run machineAccess arguments
  (← IO.getStdout).putStr outcome.output
  (← IO.getStderr).putStr outcome.errors
  return UInt32.ofNat outcome.status
