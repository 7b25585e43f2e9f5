import TapeAdmin.Configuration.Reading
import TapeAdmin.Console.Arguments
import TapeAdmin.Console.Perform

/-!
# The program

One run of the program: the command line is read, then the configuration, and then the request is
carried out. The run ends with status 0 if all of that went well, with status 1 if the configuration
or the request failed, and with status 2 if the command line is wrong.
-/

namespace TapeAdmin

/-- The failure of a run without a configuration. -/
def Configuration.LoadFault.failure (fault : Configuration.LoadFault) : Failure :=
  .configuration fault.message

/-- How a run ends. -/
inductive RunEnd where
  | done
  /-- The request failed; the reason goes into the log, possibly as JSON. -/
  | failed (logJson : Bool) (failure : Failure)
  | refused (fault : UsageFault)
  deriving Repr

namespace RunEnd

/-- The status with which the run ends. -/
def exitStatus : RunEnd → Nat
  | .done => 0
  | .failed .. => 1
  | .refused fault => fault.exitStatus

/-- What the log says about a failed request. -/
def logMessage (failure : Failure) : String :=
  "Operation failed: " ++ failure.message

/-- The characters of C0, and the delete character, by which a terminal would be commanded. -/
def isCommanding (char : Char) : Bool :=
  ['\x1b', '\x07', '\x08', '\x0c', '\x7f'].contains char

/-- A character as the log for people shows it: one that commands a terminal is shown by its number.
-/
def logChar (char : Char) : String :=
  if isCommanding char then String.ofList ('\\' :: 'x' :: Text.hexByte (UInt8.ofNat char.toNat))
  else if 0x80 ≤ char.toNat && char.toNat ≤ 0x9F then
    "\\u\x7b" ++ String.ofList (Text.hexByte (UInt8.ofNat char.toNat)) ++ "\x7d"
  else char.toString

/-- A text as the log for people shows it. -/
def logText (text : String) : String :=
  String.join (text.toList.map logChar)

end RunEnd

namespace Host

variable {σ : Type}

/-- The host with the device directory that the configuration names. -/
def configured (host : Host σ) (configuration : Configuration) : Host σ :=
  { host with devices := fun files => files.deviceDirectory configuration.deviceDirectory }

/-- Runs the program on a command line; `own` is where the user's own configuration file would be.
-/
def runProgram (host : Host σ) (own : FilePath) (commandLine : List String) :
    Procedure σ RunEnd := do
  match Invocation.read commandLine with
  | .error fault =>
    print (fault.message?.getD "")
    pure (.refused fault)
  | .ok invocation =>
    match Configuration.load (← get).files invocation.configuration own with
    | .error fault => pure (.failed invocation.logJson fault.failure)
    | .ok configuration =>
      let host := host.configured configuration
      match ← (host.perform configuration invocation.request).run with
      | .ok () => pure .done
      | .error failure => pure (.failed invocation.logJson failure)

end Host

end TapeAdmin
