import TapeAdmin.Text.Blank
import TapeAdmin.Text.Search

/-!
# Command outputs

What is known about a command once it is over: whether it succeeded, what it wrote, and the code
with which it exited, if it did exit. A command that could not be launched, or ran out of time, is a
failure like any other, with the reason in place of its error text.
-/

namespace TapeAdmin

/-- The outcome of one command. -/
structure CommandOutput where
  succeeded : Bool
  stdout : String := ""
  stderr : String := ""
  exitCode : Option Int := none
  deriving DecidableEq, Repr, Inhabited

namespace CommandOutput

/-- The outcome of a command that did not get to exit. -/
def failure (reason : String) : CommandOutput :=
  { succeeded := false, stderr := reason }

/-- The words by which a tool says that another process holds the drive. -/
def busyWords : String := "Device or resource busy"

/-- A failure that says that another process holds the drive. -/
def reportsBusy (output : CommandOutput) : Bool :=
  !output.succeeded && Text.contains output.stderr busyWords

/-- The error text without surrounding blanks, or a general message when there is none. -/
def errorMessage (output : CommandOutput) : String :=
  let text := Text.trim output.stderr
  if text.isEmpty then "Unknown error occurred" else text

end CommandOutput

end TapeAdmin
