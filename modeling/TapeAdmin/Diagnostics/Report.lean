import TapeAdmin.Command.Output
import TapeAdmin.Duration
import TapeAdmin.File.Path

/-!
# Diagnostic reports

What became of the steps of a suite, and the text in which the operator reads it.
-/

namespace TapeAdmin

/-- What became of one step; a step that waited has neither command nor output. -/
structure StepResult where
  name : String
  command : Option String
  output : Option CommandOutput
  required : Bool
  /-- How long the step took, in nanoseconds. -/
  elapsed : Nat
  deriving Repr

namespace StepResult

/-- A step passes unless its command failed. -/
def passed (result : StepResult) : Bool :=
  match result.output with
  | some output => output.succeeded
  | none => true

/-- What a report says about a step. -/
def verdict (result : StepResult) : String :=
  match result.output with
  | none => "✓ Done"
  | some output =>
    if output.succeeded then
      if (Text.trim output.stdout).isEmpty then
        "✓ Success (" ++ Duration.ofNanoseconds result.elapsed ++ ")"
      else Text.trimEnd output.stdout
    else "✗ Error: " ++ output.errorMessage

end StepResult

/-- What became of a suite. -/
structure SuiteReport where
  title : String
  device : FilePath
  /-- The local time at which the suite was started. -/
  startedAt : String
  steps : List StepResult
  /-- Cleared when a required step failed and the rest of the suite was left out. -/
  completed : Bool
  deriving Repr

namespace SuiteReport

/-- How many steps did not pass. -/
def failures (report : SuiteReport) : Nat :=
  (report.steps.filter fun result => !result.passed).length

/-- The lines of a report. -/
def lines (report : SuiteReport) : List String :=
  ["=== " ++ report.title ++ " - " ++ report.device.text ++ " ===",
    "Started: " ++ report.startedAt] ++
  report.steps.flatMap (fun result => [result.name ++ "...", result.verdict]) ++
  if report.completed then [] else ["Suite aborted after a required step failed"]

/-- The text of a report. -/
def render (report : SuiteReport) : String :=
  String.join (report.lines.map (· ++ "\n"))

/-- The text of several reports, with an empty line between them. -/
def renderAll (reports : List SuiteReport) : String :=
  String.intercalate "\n" (reports.map render)

end SuiteReport

end TapeAdmin
