import FaultTreeExchange.CommandLine.Arguments
import FaultTreeExchange.CommandLine.Check
import FaultTreeExchange.CommandLine.Help
import FaultTreeExchange.CommandLine.Translate

/-!
# Running the program

What the program does with a list of arguments.
-/

namespace FaultTreeExchange.CommandLine

/-- The outcome of arguments that are refused. -/
def UsageError.outcome (error : UsageError) : Outcome where
  status := 2
  output := ""
  errors :=
    match error with
    | .noArguments => helpText none
    | error => error.report

/-- Does what is asked for. -/
def serve {m : Type → Type} [Monad m] (access : FileAccess m) : Request → m Outcome
  | .translate settings request => runTranslate access settings request
  | .check settings request => runCheck access settings request
  | .version => return ⟨0, versionText, ""⟩
  | .help topic => return ⟨0, helpText topic, ""⟩

/-- Does what a list of arguments asks for. -/
def run {m : Type → Type} [Monad m] (access : FileAccess m) (arguments : List String) :
    m Outcome :=
  match readArguments arguments with
  | .error error => return error.outcome
  | .ok request => serve access request

end FaultTreeExchange.CommandLine
