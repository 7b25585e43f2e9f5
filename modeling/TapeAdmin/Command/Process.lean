import TapeAdmin.Command.Line
import TapeAdmin.Command.Output
import TapeAdmin.SystemError
import TapeAdmin.Text.Blank
import TapeAdmin.Text.Digits
import TapeAdmin.Text.Utf8

/-!
# Processes

What a command that the operating system executes leaves behind, and what is kept of it. A process
that is still running when its time is up is killed, and what it wrote is lost.
-/

namespace TapeAdmin

/-- How a process ends. -/
inductive ProcessEnd where
  | exited (status : Nat)
  | killed (signal : Nat)
  deriving DecidableEq, Repr

/-- What a process does until it ends. -/
structure ProcessRun where
  stdout : List UInt8 := []
  stderr : List UInt8 := []
  ending : ProcessEnd := .exited 0
  /-- How long the process runs, in milliseconds. -/
  duration : Nat := 0
  deriving DecidableEq, Repr

namespace ProcessEnd

/-- The status with which a process exited, if it did. -/
def status? : ProcessEnd → Option Nat
  | .exited status => some status
  | .killed _ => none

end ProcessEnd

/-- The three digits of a number of thousandths. -/
def threeDigits (thousandths : Nat) : List Char :=
  [100, 10, 1].map fun weight => Text.hexDigit (thousandths / weight % 10)

/-- The digits after the point of a number of thousandths, without zeros at the end. -/
def fractionDigits (thousandths : Nat) : List Char :=
  Text.dropEndWhile (· == '0') (threeDigits thousandths)

/-- A time limit in messages. -/
def limitText (milliseconds : Nat) : String :=
  if milliseconds = 0 then "0ns"
  else if milliseconds < 1000 then toString milliseconds ++ "ms"
  else
    let fraction := fractionDigits (milliseconds % 1000)
    toString (milliseconds / 1000) ++
      (if fraction.isEmpty then "" else "." ++ String.ofList fraction) ++ "s"

namespace ProcessRun

/-- What is kept of a process that ended in time. -/
def output (run : ProcessRun) : CommandOutput where
  succeeded := run.ending == .exited 0
  stdout := Text.ofUtf8Lossy run.stdout
  stderr := Text.ofUtf8Lossy run.stderr
  exitCode := run.ending.status?.map Int.ofNat

/-- Whether a process is over before a time limit. -/
def isWithin (run : ProcessRun) : Option Nat → Bool
  | some limit => run.duration < limit
  | none => true

end ProcessRun

namespace CommandLine

/-- The outcome of a command, by what became of the attempt to start it. -/
def outcome (command : CommandLine) : Except SystemError ProcessRun → CommandOutput
  | .error error => .failure error.message
  | .ok run =>
    if run.isWithin command.timeout then run.output
    else .failure (command.program ++ " timed out after " ++ limitText (command.timeout.getD 0))

/-- Whether a command holds a NUL character, with which it cannot be started. -/
def holdsNul (command : CommandLine) : Bool :=
  command.words.any fun word => word.toList.contains '\x00'

end CommandLine

end TapeAdmin
