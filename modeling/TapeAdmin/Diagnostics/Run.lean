import TapeAdmin.Diagnostics.Report
import TapeAdmin.Diagnostics.Suite
import TapeAdmin.Text.LetterCase

/-!
# Running diagnostics

The steps of a suite are run in order until a required one fails; the suites of a kind are run one
after the other, whatever became of the earlier ones.
-/

namespace TapeAdmin

/-- Keeps the lines of an output that mention a word in any letter case. Without such a line the
output counts as a failure; an output that is a failure stays as it is. -/
def CommandOutput.keepLines (output : CommandOutput) (word : String) : CommandOutput :=
  if output.succeeded then
    let kept := (Text.lines output.stdout).filter fun line =>
      Text.containsWord (Text.lower word) (Text.lower line)
    if kept.isEmpty then
      { output with
        succeeded := false
        stdout := ""
        stderr := "no line mentions '" ++ word ++ "'" }
    else { output with stdout := String.intercalate "\n" kept }
  else output

/-- The output of a step, with its line filter applied. -/
def DiagnosticStep.filtered (step : DiagnosticStep) (output : CommandOutput) : CommandOutput :=
  match step.lineFilter with
  | some word => output.keepLines word
  | none => output

namespace Host

variable {σ : Type}

/-- Runs one step. The commands of the tools are what takes time, and their time is not measured. -/
def runStep (host : Host σ) (step : DiagnosticStep) : Procedure σ StepResult :=
  match step.action with
  | .run command => do
    let output ← host.run command
    pure {
      name := step.name
      command := some command.render
      output := some (step.filtered output)
      required := step.required
      elapsed := 0 }
  | .pause _ =>
    pure {
      name := step.name
      command := none
      output := none
      required := step.required
      elapsed := 0 }

/-- Runs steps in order until a required one fails; says whether all of them were run. -/
def runSteps (host : Host σ) : List DiagnosticStep → Procedure σ (List StepResult × Bool)
  | [] => pure ([], true)
  | step :: steps => do
    let result ← host.runStep step
    if step.required && !result.passed then pure ([result], false)
    else
      let (results, completed) ← host.runSteps steps
      pure (result :: results, completed)

/-- Runs a suite. -/
def runSuite (host : Host σ) (device : FilePath) (suite : DiagnosticSuite) :
    Procedure σ SuiteReport := do
  let (results, completed) ← host.runSteps suite.steps
  pure {
    title := suite.title
    device := device
    startedAt := host.now
    steps := results
    completed := completed }

/-- Runs suites one after the other. -/
def runSuites (host : Host σ) (device : FilePath) :
    List DiagnosticSuite → Procedure σ (List SuiteReport)
  | [] => pure []
  | suite :: suites => do
    let report ← host.runSuite device suite
    let reports ← host.runSuites device suites
    pure (report :: reports)

/-- Why a suite that writes to the tape is refused. -/
def writeRefusal : String :=
  "the read/write test overwrites tape contents; pass --allow-write to run it"

/-- The suites of a kind; without permission none that writes to the tape is among them. -/
def requestedSuites (host : Host σ) (settings : DiagnosticSettings) (kind : SuiteKind)
    (device : FilePath) (allowWrite : Bool) : List DiagnosticSuite :=
  DiagnosticSuite.ofKind kind device settings
    (if allowWrite && kind.hasWritePart then some host.temporary else none)

/-- Runs the suites of a kind. A kind that is all about writing to the tape is refused unless that
is allowed. -/
def diagnose (host : Host σ) (settings : DiagnosticSettings) (kind : SuiteKind)
    (device : FilePath) (allowWrite : Bool) : Attempt σ (List SuiteReport) := do
  if kind.writesToTape && !allowWrite then throw (.invalidParameter writeRefusal)
  host.runSuites device (host.requestedSuites settings kind device allowWrite)

end Host

/-- Writes the text of reports to a file, in place of what was in it. -/
def saveReports {σ : Type} (path : FilePath) (reports : List SuiteReport) : Attempt σ Unit := do
  let world ← get
  match world.files.write path (Text.utf8 (SuiteReport.renderAll reports)) with
  | .ok files => set { world with files := files }
  | .error error => throw (.system error)

end TapeAdmin
