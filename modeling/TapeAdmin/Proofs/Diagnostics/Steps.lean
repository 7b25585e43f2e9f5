import Mathlib.Data.List.Forall2
import TapeAdmin.Diagnostics.Run
import TapeAdmin.Proofs.Host.Sequence
import TapeAdmin.Proofs.Text.Search

/-!
# Steps of a suite

A suite performs its steps in order, up to and including the first required one that fails, and has
one result for each step that it performs. A result keeps what the tools put out for its step, or
the lines of it that the step asks for.
-/

namespace TapeAdmin

variable {σ : Type}

/-! ### What a result says -/

namespace CommandOutput

variable {output : CommandOutput} {word : String}

theorem keepLines_of_failed (failed : output.succeeded = false) :
    output.keepLines word = output := by
  simp [keepLines, failed]

theorem keepLines_of_mentioned (succeeded : output.succeeded = true)
    (mentioned : Text.linesMentioning word output.stdout ≠ []) :
    output.keepLines word =
      { output with
        stdout := String.intercalate "\n" (Text.linesMentioning word output.stdout) } := by
  rw [Text.linesMentioning_eq] at mentioned ⊢
  rw [keepLines, if_pos succeeded]
  exact if_neg (by rwa [List.isEmpty_iff])

theorem succeeded_keepLines_of_not_mentioned (succeeded : output.succeeded = true)
    (not_mentioned : Text.linesMentioning word output.stdout = []) :
    (output.keepLines word).succeeded = false := by
  rw [Text.linesMentioning_eq] at not_mentioned
  simp [keepLines, succeeded, not_mentioned]

/-- An output passes a line filter if the command succeeded and a line mentions the word. -/
theorem succeeded_keepLines_iff :
    (output.keepLines word).succeeded = true ↔
      output.succeeded = true ∧ ∃ line ∈ Text.lines output.stdout, Text.Mentions word line := by
  rw [← Text.linesMentioning_ne_nil_iff]
  cases succeeded : output.succeeded with
  | false => simp [keepLines_of_failed succeeded, succeeded]
  | true =>
      by_cases mentioned : Text.linesMentioning word output.stdout = []
      · simp [succeeded_keepLines_of_not_mentioned succeeded mentioned, mentioned]
      · simp [keepLines_of_mentioned succeeded mentioned, succeeded, mentioned]

/-- What is left of an output that passes a line filter are the lines that mention the word. -/
theorem stdout_keepLines (passes : (output.keepLines word).succeeded = true) :
    (output.keepLines word).stdout =
      String.intercalate "\n" (Text.linesMentioning word output.stdout) := by
  rcases succeeded_keepLines_iff.mp passes with ⟨succeeded, mentioned⟩
  rw [keepLines_of_mentioned succeeded (Text.linesMentioning_ne_nil_iff.mpr mentioned)]

end CommandOutput

/-- The command of a step; a step that waits has none. -/
def DiagnosticStep.command? (step : DiagnosticStep) : Option CommandLine :=
  match step.action with
  | .run command => some command
  | .pause _ => none

namespace StepResult

/-- What a result keeps of an output under a line filter: all of it if there is no filter. -/
def Keeps (result : StepResult) (output : CommandOutput) : Option String → Prop
  | none => result.output = some output ∧ result.passed = output.succeeded
  | some word =>
    (result.passed = true ↔
      output.succeeded = true ∧ ∃ line ∈ Text.lines output.stdout, Text.Mentions word line) ∧
    (result.passed = true → result.output.map CommandOutput.stdout =
      some (String.intercalate "\n" (Text.linesMentioning word output.stdout)))

/-- What a result says about a step for which the tools put out `answer`. -/
structure Records (result : StepResult) (step : DiagnosticStep) (answer : Option CommandOutput) :
    Prop where
  name : result.name = step.name
  required : result.required = step.required
  command : result.command = step.command?.map CommandLine.render
  /-- A step that waits passes. -/
  waits : step.command? = none → answer = none ∧ result.output = none ∧ result.passed = true
  executes : ∀ command, step.command? = some command →
    ∃ output, answer = some output ∧ result.Keeps output step.lineFilter

/-- The result of a required step that failed. -/
def IsFatal (result : StepResult) : Prop :=
  result.required = true ∧ result.passed = false

theorem not_isFatal_iff {result : StepResult} :
    ¬result.IsFatal ↔ (result.required = true → result.passed = true) := by
  simp [IsFatal]

/-- The results of steps bear their names. -/
theorem map_name_of_records {steps : List DiagnosticStep} {answers : List (Option CommandOutput)}
    {results : List StepResult} (as_many : steps.length ≤ results.length)
    (records : List.Forall₂ (fun done result => Records result done.1 done.2)
      (steps.zip answers) results) :
    results.map name = steps.map DiagnosticStep.name := by
  have names : (steps.zip answers).map (fun done => done.1.name) = results.map name := by
    rw [← List.forall₂_eq_eq_eq, List.forall₂_map_left_iff, List.forall₂_map_right_iff]
    exact records.imp fun _ _ recorded => recorded.name.symm
  have lengths := records.length_eq
  rw [List.length_zip] at lengths
  have firsts : (steps.zip answers).map Prod.fst = steps := List.map_fst_zip (by omega)
  rw [← names]
  conv_rhs => rw [← firsts, List.map_map]
  rfl

/-- A step whose command was executed, with its line filter applied. -/
theorem keeps_filtered {step : DiagnosticStep} {output : CommandOutput} {result : StepResult}
    (recorded : result.output = some (step.filtered output)) :
    result.Keeps output step.lineFilter := by
  have passes : result.passed = (step.filtered output).succeeded := by simp [passed, recorded]
  rw [DiagnosticStep.filtered] at recorded passes
  cases filter : step.lineFilter with
  | none =>
      rw [filter] at recorded passes
      exact ⟨recorded, passes⟩
  | some word =>
      rw [filter] at recorded passes
      rw [Keeps, passes]
      refine ⟨CommandOutput.succeeded_keepLines_iff, fun succeeded => ?_⟩
      rw [recorded, Option.map_some, CommandOutput.stdout_keepLines succeeded]

end StepResult

namespace Host

variable (host : Host σ)

/-! ### Performing steps -/

/-- What the tools put out for a step; nothing if the step waits. -/
def performStep (step : DiagnosticStep) : Procedure σ (Option CommandOutput) :=
  match step.command? with
  | some command => some <$> host.run command
  | none => pure none

/-- Performs steps one after another, whatever becomes of them. -/
def performEach (steps : List DiagnosticStep) : Procedure σ (List (Option CommandOutput)) :=
  steps.mapM host.performStep

theorem performEach_cons (step : DiagnosticStep) (steps : List DiagnosticStep) (world : World σ) :
    (host.performEach (step :: steps)).run world =
      let first := (host.performStep step).run world
      let later := (host.performEach steps).run first.2
      (first.1 :: later.1, later.2) := by
  rw [performEach, List.mapM_cons]
  rfl

theorem executed_performStep (step : DiagnosticStep) (world : World σ) :
    ((host.performStep step).run world).2.executed =
      world.executed ++ step.command?.toList.map fun command => { command := command } := by
  rw [performStep]
  cases step.command? with
  | none => exact (List.append_nil _).symm
  | some command => rfl

/-- The commands of the steps are executed, each once and in order. -/
theorem executed_performEach (steps : List DiagnosticStep) (world : World σ) :
    ((host.performEach steps).run world).2.executed =
      world.executed ++ (steps.filterMap DiagnosticStep.command?).map
        fun command => { command := command } := by
  induction steps generalizing world with
  | nil => exact (List.append_nil _).symm
  | cons step steps ih =>
      rw [performEach_cons]
      dsimp only
      rw [ih, executed_performStep, List.filterMap_cons]
      cases step.command? <;> simp

/-- Running a step performs it, and its result records what the tools put out. -/
theorem runStep_records (step : DiagnosticStep) (world : World σ) :
    let ran := (host.runStep step).run world
    let performed := (host.performStep step).run world
    ran.2 = performed.2 ∧ ran.1.Records step performed.1 := by
  cases action : step.action with
  | run command =>
      have command_eq : step.command? = some command := by rw [DiagnosticStep.command?, action]
      have performs : host.performStep step = some <$> host.run command := by
        rw [performStep, command_eq]
      have runs : host.runStep step = (do
          let output ← host.run command
          pure {
            name := step.name
            command := some command.render
            output := some (step.filtered output)
            required := step.required
            elapsed := 0 }) := by
        rw [runStep, action]
      rw [performs, runs]
      refine ⟨rfl, rfl, rfl, ?_, ?_, ?_⟩
      · rw [command_eq]
        rfl
      · simp [command_eq]
      · intro _ _
        exact ⟨_, rfl, StepResult.keeps_filtered rfl⟩
  | pause seconds =>
      have command_eq : step.command? = none := by rw [DiagnosticStep.command?, action]
      have performs : host.performStep step = pure none := by rw [performStep, command_eq]
      have runs : host.runStep step = pure {
          name := step.name
          command := none
          output := none
          required := step.required
          elapsed := 0 } := by
        rw [runStep, action]
      rw [performs, runs]
      refine ⟨rfl, rfl, rfl, ?_, ?_, ?_⟩
      · rw [command_eq]
        rfl
      · exact fun _ => ⟨rfl, rfl, rfl⟩
      · simp [command_eq]

/-- A suite goes on with its next step unless the step was required and failed. -/
theorem runSteps_cons (step : DiagnosticStep) (steps : List DiagnosticStep) (world : World σ) :
    (host.runSteps (step :: steps)).run world =
      let first := (host.runStep step).run world
      if step.required && !first.1.passed then (([first.1], false), first.2)
      else
        let later := (host.runSteps steps).run first.2
        ((first.1 :: later.1.1, later.1.2), later.2) := by
  rcases ran : (host.runStep step).run world with ⟨result, after⟩
  rw [runSteps, StateT.run_bind, ran]
  change (if step.required && !result.passed then _ else _ :
      Procedure σ (List StepResult × Bool)).run after =
    if step.required && !result.passed then _ else _
  split <;> rfl

/-- What became of steps that were run from a world: `answers` is what the tools put out for those
that were performed. -/
structure StepsRun (steps : List DiagnosticStep) (before : World σ) (results : List StepResult)
    (completed : Bool) (answers : List (Option CommandOutput)) (after : World σ) : Prop where
  performs : (host.performEach (steps.take results.length)).run before = (answers, after)
  records : List.Forall₂ (fun done result => StepResult.Records result done.1 done.2)
    ((steps.take results.length).zip answers) results
  completes : completed = true →
    steps.take results.length = steps ∧ ∀ result ∈ results, ¬result.IsFatal
  aborts : completed = false → ∃ earlier last, results = earlier ++ [last] ∧ last.IsFatal ∧
    ∀ result ∈ earlier, ¬result.IsFatal

variable {host}

/-- A required step that fails is the last one. -/
theorem StepsRun.of_fatal {step : DiagnosticStep} {steps : List DiagnosticStep}
    {before after : World σ} {result : StepResult} {answer : Option CommandOutput}
    (performed : (host.performStep step).run before = (answer, after))
    (records : result.Records step answer) (fatal : result.IsFatal) :
    host.StepsRun (step :: steps) before [result] false [answer] after where
  performs := by
    rw [List.length_singleton, List.take_succ_cons, List.take_zero, performEach_cons, performed]
    rfl
  records := .cons records .nil
  completes := by simp
  aborts _ := ⟨[], result, rfl, fatal, by simp⟩

/-- Behind any other step the suite goes on. -/
theorem StepsRun.of_later {step : DiagnosticStep} {steps : List DiagnosticStep}
    {before between after : World σ} {result : StepResult} {results : List StepResult}
    {completed : Bool} {answer : Option CommandOutput} {answers : List (Option CommandOutput)}
    (performed : (host.performStep step).run before = (answer, between))
    (records : result.Records step answer) (passable : ¬result.IsFatal)
    (later : host.StepsRun steps between results completed answers after) :
    host.StepsRun (step :: steps) before (result :: results) completed (answer :: answers)
      after where
  performs := by
    rw [List.length_cons, List.take_succ_cons, performEach_cons, performed]
    dsimp only
    rw [later.performs]
  records := .cons records later.records
  completes done := by
    rcases later.completes done with ⟨all_steps, none_fatal⟩
    refine ⟨by rw [List.length_cons, List.take_succ_cons, all_steps], ?_⟩
    simpa using ⟨passable, none_fatal⟩
  aborts stopped := by
    rcases later.aborts stopped with ⟨earlier, last, rfl, fatal, none_fatal⟩
    exact ⟨result :: earlier, last, rfl, fatal, by simpa using ⟨passable, none_fatal⟩⟩

/-- Steps are performed in order up to and including the first required one that fails. -/
theorem stepsRun_runSteps (host : Host σ) (steps : List DiagnosticStep) (world : World σ) :
    let ran := (host.runSteps steps).run world
    ∃ answers, host.StepsRun steps world ran.1.1 ran.1.2 answers ran.2 := by
  induction steps generalizing world with
  | nil =>
      refine ⟨[], rfl, .nil, fun _ => ⟨rfl, ?_⟩, ?_⟩
      · exact fun _ impossible => nomatch impossible
      · exact fun impossible => nomatch impossible
  | cons step steps ih =>
      rcases performed : (host.performStep step).run world with ⟨answer, between⟩
      rcases ran : (host.runStep step).run world with ⟨result, reached⟩
      rcases host.runStep_records step world with ⟨same, records⟩
      rw [performed, ran] at same records
      change reached = between at same
      change result.Records step answer at records
      -- Running a step leaves the world that performing it does, so both go on from there.
      subst same
      rw [runSteps_cons, ran]
      dsimp only
      split
      · next fatal =>
          rw [← records.required, Bool.and_eq_true, Bool.not_eq_true'] at fatal
          exact ⟨[answer], .of_fatal performed records fatal⟩
      · next passable =>
          rw [← records.required, Bool.and_eq_true, Bool.not_eq_true'] at passable
          rcases ih reached with ⟨answers, later⟩
          exact ⟨answer :: answers, .of_later performed records passable later⟩

/-! ### Suites -/

theorem runSuite_run (host : Host σ) (device : FilePath) (suite : DiagnosticSuite)
    (world : World σ) :
    (host.runSuite device suite).run world =
      let ran := (host.runSteps suite.steps).run world
      ({ title := suite.title
         device := device
         startedAt := host.now
         steps := ran.1.1
         completed := ran.1.2 }, ran.2) :=
  rfl

/-- A suite is completed unless a required step fails. -/
theorem completed_runSuite_iff (host : Host σ) (device : FilePath) (suite : DiagnosticSuite)
    (world : World σ) :
    let report := ((host.runSuite device suite).run world).1
    report.completed = true ↔ ∀ result ∈ report.steps, ¬result.IsFatal := by
  rcases host.stepsRun_runSteps suite.steps world with ⟨answers, ran⟩
  rw [runSuite_run]
  dsimp only
  refine ⟨fun completed => (ran.completes completed).2, fun none_fatal => ?_⟩
  by_contra stopped
  rw [Bool.not_eq_true] at stopped
  rcases ran.aborts stopped with ⟨earlier, last, results_eq, fatal, _⟩
  exact none_fatal last (by simp [results_eq]) fatal

/-- What becomes of a suite: `performed` are the steps that were performed, and `answers` is what
the tools put out for them. -/
structure SuiteOutcome (suite : DiagnosticSuite) (performed : List DiagnosticStep)
    (before : World σ) (report : SuiteReport) (answers : List (Option CommandOutput))
    (after : World σ) : Prop where
  names : report.steps.map StepResult.name = performed.map DiagnosticStep.name
  records : List.Forall₂ (fun done result => StepResult.Records result done.1 done.2)
    (performed.zip answers) report.steps
  performs : (host.performEach performed).run before = (answers, after)
  executed : after.executed = before.executed ++
    (performed.filterMap DiagnosticStep.command?).map fun command => { command := command }
  completed_iff : report.completed = true ↔
    ∀ result ∈ report.steps, result.required = true → result.passed = true
  all_performed : report.completed = true → performed = suite.steps
  /-- A suite that is not completed ends with a required step that failed. -/
  aborted : report.completed = false → ∃ earlier last, report.steps = earlier ++ [last] ∧
    last.required = true ∧ last.passed = false ∧
    ∀ result ∈ earlier, result.required = true → result.passed = true
  failures : report.failures = report.steps.countP fun result => !result.passed

/--
What becomes of a suite. Its results are those of its first steps, in order and each under the name
of its step, and they record what the tools put out for these steps; the commands of these steps are
executed, each once, and no others. The suite is completed exactly if no required step among them
failed, and then all its steps are among them; otherwise the last of them is a required one that
failed, and no required step before it did. The failures are the results that did not pass.
-/
theorem runSuite_outcome (host : Host σ) (device : FilePath) (suite : DiagnosticSuite)
    (world : World σ) :
    let ran := (host.runSuite device suite).run world
    let performed := suite.steps.take ran.1.steps.length
    let answered := (host.performEach performed).run world
    host.SuiteOutcome suite performed world ran.1 answered.1 ran.2 := by
  intro ran performed answered
  rcases host.stepsRun_runSteps suite.steps world with ⟨answers, run⟩
  have performs : answered = (answers, ran.2) := run.performs
  have executed := host.executed_performEach performed world
  change answered.2.executed = _ at executed
  rw [performs] at executed ⊢
  have as_many : performed.length ≤ ran.1.steps.length := List.length_take_le _ _
  constructor
  case names => exact StepResult.map_name_of_records as_many run.records
  case records => exact run.records
  case performs => exact performs
  case executed => exact executed
  case completed_iff =>
    simp only [← StepResult.not_isFatal_iff]
    exact host.completed_runSuite_iff device suite world
  case all_performed => exact fun completed => (run.completes completed).1
  case aborted =>
    intro stopped
    rcases run.aborts stopped with ⟨earlier, last, results_eq, ⟨required, failed⟩, none_fatal⟩
    refine ⟨earlier, last, results_eq, required, failed, fun result result_mem => ?_⟩
    exact StepResult.not_isFatal_iff.mp (none_fatal result result_mem)
  case failures => exact List.countP_eq_length_filter.symm

/-- An optional step fails because no line is left of its output, and the required step behind it
fails too, so the last step is not performed. -/
theorem runSuite_outcome_aborted :
    let host := Host.scanning ⟨⟨"/dev"⟩, .error .notFound, fun _ => .accessible⟩ .told
    let command : CommandLine := { program := "lsscsi", arguments := [] }
    let suite : DiagnosticSuite := {
      title := "Cabling"
      steps := [
        { name := "Wait", action := .pause 1, required := true },
        { name := "Devices", action := .run command, lineFilter := some "Tape" },
        { name := "Drive", action := .run command, required := true },
        { name := "Never", action := .run command }] }
    let report := ((host.runSuite ⟨"/dev/st0"⟩ suite).run (.start [true, false])).1
    report.completed = false ∧ report.failures = 2 ∧
      ∃ earlier last, report.steps = earlier ++ [last] ∧ last.required = true ∧
        last.passed = false ∧
        ∀ result ∈ earlier, result.required = true → result.passed = true := by
  intro host command suite report
  have outcome := runSuite_outcome host ⟨"/dev/st0"⟩ suite (.start [true, false])
  have stopped : report.completed = false := by decide +kernel
  refine ⟨stopped, ?_, outcome.aborted stopped⟩
  rw [outcome.failures]
  decide +kernel

end Host

end TapeAdmin
