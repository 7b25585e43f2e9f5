import TapeAdmin.Command.Line
import TapeAdmin.Command.Output
import TapeAdmin.File.Path
import TapeAdmin.SystemError

/-!
# Failures

The ways in which a request to the program can end without its result, and their wording.
-/

namespace TapeAdmin

/-- Why a request failed. -/
inductive Failure where
  | system (error : SystemError)
  | permissionDenied (device : FilePath)
  | deviceBusy (device : FilePath)
  | noDevice (reason : String)
  | commandFailed (command : String) (errorText : String)
  | configuration (reason : String)
  | malformedData (reason : String)
  | serialization (reason : String)
  | invalidParameter (reason : String)
  | other (reason : String)
  deriving Repr

namespace Failure

/-- The wording of a failure. -/
def message : Failure → String
  | .system error => "IO error: " ++ error.message
  | .permissionDenied device => "Permission denied on tape device " ++ device.text
  | .deviceBusy device => "Tape device busy: " ++ device.text
  | .noDevice reason => "No tape device available: " ++ reason
  | .commandFailed command errorText => "Command `" ++ command ++ "` failed: " ++ errorText
  | .configuration reason => "Configuration error: " ++ reason
  | .malformedData reason => "Parse error: " ++ reason
  | .serialization reason => "Serialization error: " ++ reason
  | .invalidParameter reason => "Parameter validation error: " ++ reason
  | .other reason => "Generic error: " ++ reason

end Failure

/-- The output of a command that succeeded; the failure of one that did not quotes its error text.
-/
def CommandOutput.orFailure (output : CommandOutput) (command : CommandLine) :
    Except Failure CommandOutput :=
  if output.succeeded then .ok output
  else .error (.commandFailed command.render output.stderr)

end TapeAdmin
