import FaultTreeExchange.CommandLine.Request
import FaultTreeExchange.SourceFile

/-!
# Reports of the command line

A run of the program ends with a status and with texts on its two outputs. Errors go to the error
output, one after the other, in the form that is asked for.
-/

namespace FaultTreeExchange.CommandLine

/-- What is left of a run: its exit status and its two outputs, without the lines of a log. -/
structure Outcome where
  status : Nat
  output : String
  errors : String
  deriving DecidableEq, Repr

def asLine (text : String) : String :=
  text ++ "\n"

/-- The report of an error that has no place in a file. A quiet run does not report it. -/
def Settings.reportMessage (settings : Settings) (message : String) : String :=
  if settings.quiet then ""
  else
    match settings.format with
    | .text => asLine message
    | .json => asLine (Json.object [("error", .string message)]).compact

/-- The report of an error of a file. A quiet run reports it in the JSON form only. -/
def Settings.reportFileError (settings : Settings) (error : FileError) : String :=
  match settings.format with
  | .json => asLine error.json.pretty
  | .text => if settings.quiet then "" else asLine error.display

end FaultTreeExchange.CommandLine
