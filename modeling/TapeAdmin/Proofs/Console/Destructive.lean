import TapeAdmin.Proofs.Command.Harmless
import TapeAdmin.Proofs.Console.Handlers
import TapeAdmin.Proofs.Host.Trace

/-!
# Requests that destroy data

Formatting a tape, diagnostics that write to the tape, and writing an attribute: what the operator
consents to by each of these requests, and what is executed for it.
-/

namespace TapeAdmin

open CommandLine (IsHarmless destructivePrograms)
open World (Executes ExecutesOnce Ran)

variable {σ : Type}

/-- Whether the first line that is typed is a yes, in any letter case and between any blanks. -/
def AnswersYes (typed : List UInt8) : Prop :=
  ∃ answer, Text.ofUtf8? (firstLine typed).1 = some answer ∧
    Text.lower (Text.trim answer) ∈ [['y'], ['y', 'e', 's']]

/-- A request to format a tape that is valid, for a device that is found, and agreed to. -/
def ConsentsToFormat (host : Host σ) (configuration : Configuration) (world : World σ) :
    Request → Prop
  | .format target label force blockSize assumeYes =>
    ∃ device, ((host.resolveDevice configuration target).run.run world).1 = .ok device ∧
      FormatRequest.validate ⟨device, label, force, blockSize⟩ = .ok () ∧
      (assumeYes = true ∨ AnswersYes world.typed)
  | _ => False

/-- A request for diagnostics that may write to the tape. -/
def ConsentsToCopy : Request → Prop
  | .diagnose _ suite allowWrite _ =>
    (suite = .readWrite ∨ suite = .full) ∧ allowWrite = true
  | _ => False

/-- A request to write a value that an attribute accepts, for a device that is found. -/
def ConsentsToWrite (host : Host σ) (configuration : Configuration) (world : World σ) :
    Request → Prop
  | .attributes target (.write id value partition) =>
    (∃ device, ((host.resolveDevice configuration target).run.run world).1 = .ok device) ∧
      ∃ data, AttributeWrite.encode ⟨id, value, partition⟩ = .ok data
  | _ => False

namespace Host

variable (host : Host σ)

theorem harmless_of_program {command : CommandLine}
    (other : command.program ∉ destructivePrograms) :
    Respects (Ran IsHarmless) (host.run command) :=
  Ran.respects_run host (CommandLine.isHarmless_of_program other)

theorem harmless_probe (settings : DiscoverySettings) (node : DeviceNode) :
    Respects (Ran IsHarmless) (host.run (Discovery.statusRequest settings node)) :=
  harmless_of_program host (show "mt" ∉ destructivePrograms by decide)

theorem harmless_operation (operation : TapeOperation) (device : FilePath) :
    Respects (Ran IsHarmless) (host.run (operation.command device)) :=
  harmless_of_program host (show "mt" ∉ destructivePrograms by decide)

theorem resolveDevice_ran (configuration : Configuration) (target : Target) :
    Respects (Ran IsHarmless) (host.resolveDevice configuration target).run :=
  .resolveDevice World.chains_ran Ran.respects_print host (harmless_probe host _) target

/-- Reading a line takes it from what is typed, and puts the reading on record. -/
theorem readLine_run (world : World σ) :
    let cut := firstLine world.typed
    let reading : Reading := ⟨cut.1, world.printed⟩
    (readLine : Attempt σ String).run.run world =
      (match Text.ofUtf8? cut.1 with
        | some text => .ok text
        | none => .error (.system .invalidUtf8),
        { world with typed := cut.2, readings := world.readings ++ [reading] }) := by
  intro cut reading
  have read : (readLine : Attempt σ String).run.run world =
      (match Text.ofUtf8? cut.1 with
        | some text => (Pure.pure text : Attempt σ String)
        | none => throw (Failure.system .invalidUtf8)).run.run
        { world with typed := cut.2, readings := world.readings ++ [reading] } := rfl
  rw [read]
  split <;> rfl

theorem isYes_iff {answer : String} :
    isYes answer = true ↔ Text.lower (Text.trim answer) ∈ [['y'], ['y', 'e', 's']] := by
  simp [isYes]

/-- A question executes nothing, and is answered by the first line that is typed. -/
theorem confirm_run (question : String) (world : World σ) :
    ∃ result after, (confirm question : Attempt σ Bool).run.run world = (result, after) ∧
      after.executed = world.executed ∧ (result = .ok true ↔ AnswersYes world.typed) := by
  have asked : (confirm question : Attempt σ Bool).run.run world =
      (readLine >>= fun answer => (Pure.pure (isYes answer) : Attempt σ Bool)).run.run
        { world with printed := world.printed ++ (question ++ " [y/N]: ") } := rfl
  have read := readLine_run { world with printed := world.printed ++ (question ++ " [y/N]: ") }
  rw [asked]
  cases line : Text.ofUtf8? (firstLine world.typed).1 with
  | none =>
      simp only [line] at read
      rw [Attempt.run_bind_of_error read]
      refine ⟨_, _, rfl, rfl, ?_⟩
      simp [AnswersYes, line]
  | some answer =>
      simp only [line] at read
      rw [Attempt.run_bind_of_ok read]
      refine ⟨_, _, rfl, rfl, ?_⟩
      simp only [AnswersYes, line, Except.ok.injEq, Option.some.injEq, exists_eq_left', isYes_iff]

theorem printLines_run (lines : List String) (world : World σ) :
    ∃ after, (printLines lines : Attempt σ Unit).run.run world = (.ok (), after) ∧
      after.executed = world.executed ∧ after.typed = world.typed :=
  ⟨_, rfl, rfl, rfl⟩

/-- A valid request to format a tape is carried out by one command. -/
theorem format_once (settings : FormatSettings) {request : FormatRequest}
    (valid : request.validate = .ok ()) (world : World σ) :
    ExecutesOnce (·.formatsTape = true) IsHarmless world
      ((host.format settings request).run.run world).2 := by
  have asks : Respects (Ran IsHarmless) (host.run (inquiryCommand request.device)) :=
    harmless_of_program host (show "sg_inq" ∉ destructivePrograms by decide)
  have before := Respects.withVendorBlockSize World.chains_ran host settings asks world
  rw [format, valid]
  exact before.executes.trans_once (.of_execution rfl rfl)

theorem formatIfAgreed_once (settings : FormatSettings) {request : FormatRequest}
    (valid : request.validate = .ok ()) (world : World σ) :
    ExecutesOnce (·.formatsTape = true) IsHarmless world
      ((host.formatIfAgreed settings request true).run.run world).2 := by
  apply Attempt.executesOnce_bind (format_once host settings valid world)
  intro output
  refine .attempt_bind World.chains_ran (.printLines Ran.respects_print _) fun _ => ?_
  exact .requireSuccess World.chains_ran _ _ _

theorem decideToFormat_run (assumeYes : Bool) (world : World σ) :
    ∃ result after, (decideToFormat assumeYes : Attempt σ Bool).run.run world = (result, after) ∧
      after.executed = world.executed ∧
      (result = .ok true ↔ assumeYes = true ∨ AnswersYes world.typed) := by
  cases assumeYes with
  | true => exact ⟨_, _, rfl, rfl, by simp⟩
  | false =>
      rcases confirm_run formatQuestion world with ⟨result, after, asked, executed, yes_iff⟩
      exact ⟨result, after, asked, executed, by simpa using yes_iff⟩

/-- The consent to formatting, once the device is found. -/
theorem consentsToFormat_iff {host : Host σ} {configuration : Configuration} {target : Target}
    {label : Option String} {force : Bool} {blockSize : Option Nat} {assumeYes : Bool}
    {device : FilePath} {world reached : World σ}
    (found : (host.resolveDevice configuration target).run.run world = (.ok device, reached)) :
    ConsentsToFormat host configuration world (.format target label force blockSize assumeYes) ↔
      FormatRequest.validate ⟨device, label, force, blockSize⟩ = .ok () ∧
        (assumeYes = true ∨ AnswersYes world.typed) := by
  simp [ConsentsToFormat, found]

/-- A request to format a tape is carried out by one command if the operator agreed to it, and by
none otherwise. -/
theorem performFormat_outcome (configuration : Configuration) (target : Target)
    (label : Option String) (force : Bool) (blockSize : Option Nat) (assumeYes : Bool)
    (world : World σ) :
    ConsentsToFormat host configuration world (.format target label force blockSize assumeYes) ∧
        ExecutesOnce (·.formatsTape = true) IsHarmless world
          ((host.performFormat configuration target label force blockSize
            assumeYes).run.run world).2 ∨
      ¬ConsentsToFormat host configuration world (.format target label force blockSize assumeYes) ∧
        Executes IsHarmless world
          ((host.performFormat configuration target label force blockSize
            assumeYes).run.run world).2 := by
  have scan := resolveDevice_ran host configuration target world
  rcases found : (host.resolveDevice configuration target).run.run world with ⟨result, reached⟩
  rw [found] at scan
  rw [performFormat]
  cases result with
  | error failure =>
      rw [Attempt.run_bind_of_error found]
      exact Or.inr ⟨by simp [ConsentsToFormat, found], scan.executes⟩
  | ok device =>
      rw [Attempt.run_bind_of_ok found, consentsToFormat_iff found]
      dsimp only
      cases valid : FormatRequest.validate ⟨device, label, force, blockSize⟩ with
      | error failure =>
          rw [Attempt.run_bind_of_except_error rfl]
          exact Or.inr ⟨by simp, scan.executes⟩
      | ok _ =>
          rcases printLines_run (formatWarning ⟨device, label, force, blockSize⟩) reached with
            ⟨warned, warning, warned_executed, warned_typed⟩
          rcases decideToFormat_run assumeYes warned with
            ⟨decision, decided, asked, asked_executed, agreed_iff⟩
          have before : Executes IsHarmless world decided :=
            scan.executes.trans (.of_eq (asked_executed.trans warned_executed))
          rw [warned_typed, scan.typed] at agreed_iff
          rw [Attempt.run_bind_of_except_ok rfl, Attempt.run_bind_of_ok warning, ← agreed_iff]
          rcases decision with failure | agreed
          · rw [Attempt.run_bind_of_error asked]
            exact Or.inr ⟨by simp, before⟩
          · rw [Attempt.run_bind_of_ok asked]
            cases agreed with
            | true =>
                have once := formatIfAgreed_once host configuration.format valid decided
                exact Or.inl ⟨⟨rfl, rfl⟩, before.trans_once once⟩
            | false =>
                have cancelled : Respects (Ran IsHarmless)
                    (printLines ["Format cancelled"] : Attempt σ Unit).run :=
                  .printLines Ran.respects_print _
                exact Or.inr ⟨by simp, before.trans (cancelled decided).executes⟩

/-- Writing an accepted value is carried out by one command. -/
theorem writeAttribute_once (device : FilePath) {write : AttributeWrite} {data : List UInt8}
    (accepted : write.encode = .ok data) (world : World σ) :
    ExecutesOnce (·.writesAttributes = true) IsHarmless world
      ((host.writeAttribute device write).run.run world).2 := by
  have writes := CommandLine.writeCommand_writesAttributes host.temporary device write.partition
    data.length
  rw [writeAttribute, accepted]
  apply Attempt.executesOnce_bind
  · exact .of_execution rfl writes
  · intro reply
    exact .attempt_map (.attempt_of_except World.chains_ran _) _

/-- A request to write an attribute is carried out by one command if the attribute accepts the
value, and by none otherwise. -/
theorem performAttributes_write_outcome (configuration : Configuration) (target : Target)
    (id : UInt16) (value : String) (partition : UInt8) (world : World σ) :
    ConsentsToWrite host configuration world (.attributes target (.write id value partition)) ∧
        ExecutesOnce (·.writesAttributes = true) IsHarmless world
          ((host.performAttributes configuration target
            (.write id value partition)).run.run world).2 ∨
      ¬ConsentsToWrite host configuration world (.attributes target (.write id value partition)) ∧
        Executes IsHarmless world
          ((host.performAttributes configuration target
            (.write id value partition)).run.run world).2 := by
  have scan := resolveDevice_ran host configuration target world
  rcases found : (host.resolveDevice configuration target).run.run world with ⟨result, reached⟩
  rw [found] at scan
  rw [performAttributes]
  cases result with
  | error failure =>
      rw [Attempt.run_bind_of_error found]
      exact Or.inr ⟨by simp [ConsentsToWrite, found], scan.executes⟩
  | ok device =>
      rw [Attempt.run_bind_of_ok found]
      cases encoded : AttributeWrite.encode ⟨id, value, partition⟩ with
      | error fault =>
          refine Or.inr ⟨by simp [ConsentsToWrite, encoded], ?_⟩
          have refused : (host.writeAttribute device ⟨id, value, partition⟩).run.run reached =
              (.error (.invalidParameter fault.message), reached) := by
            rw [writeAttribute, encoded]
            rfl
          rw [Attempt.run_bind_of_error refused]
          exact scan.executes
      | ok data =>
          refine Or.inl ⟨by simp [ConsentsToWrite, found, encoded], scan.executes.trans_once ?_⟩
          apply Attempt.executesOnce_bind (writeAttribute_once host device encoded reached)
          intro _
          exact .printLines Ran.respects_print _

theorem saveReports_ran {kind : CommandLine → Prop} (path : FilePath)
    (reports : List SuiteReport) :
    Respects (Ran kind) (saveReports path reports : Attempt σ Unit).run := by
  intro world
  have asked : (get : Attempt σ (World σ)).run.run world = (.ok world, world) := rfl
  rw [saveReports, Attempt.run_bind_of_ok asked]
  split
  · exact .of_eq rfl rfl
  · exact .of_eq rfl rfl

/-- What a request for diagnostics may execute: nothing that destroys data, except for copies where
they are allowed. -/
structure DiagnosticCommand (suite : SuiteKind) (allowWrite : Bool) (command : CommandLine) : Prop
    where
  formats : command.formatsTape = false
  copies : command.copiesData = true → (suite = .readWrite ∨ suite = .full) ∧ allowWrite = true
  writes : command.writesAttributes = false

theorem diagnosticCommand_of_isHarmless {suite : SuiteKind} {allowWrite : Bool}
    (command : CommandLine) (harmless : command.IsHarmless) :
    DiagnosticCommand suite allowWrite command :=
  ⟨harmless.formats, by simp [harmless.copies], harmless.writes⟩

theorem diagnosticCommand_of_requested {kind : SuiteKind} {allowWrite : Bool} {device : FilePath}
    {settings : DiagnosticSettings} {suite : DiagnosticSuite}
    (suite_mem : suite ∈ host.requestedSuites settings kind device allowWrite)
    {step : DiagnosticStep} (step_mem : step ∈ suite.steps) {command : CommandLine}
    (runs : step.action = .run command) : DiagnosticCommand kind allowWrite command := by
  rcases List.mem_append.mp suite_mem with readOnly | readWrite
  · have program_mem := DiagnosticSuite.usesOnly_readOnlySuites kind device settings suite readOnly
      step step_mem command runs
    apply diagnosticCommand_of_isHarmless
    apply CommandLine.isHarmless_of_program
    exact DiagnosticSuite.not_destructive_of_readOnlyPrograms _ program_mem
  · by_cases permitted : (allowWrite && kind.hasWritePart) = true
    · have parts := Bool.and_eq_true_iff.mp permitted
      rw [if_pos permitted] at readWrite
      simp only [parts.2, if_true, List.mem_singleton] at readWrite
      subst suite
      have program_mem := DiagnosticSuite.usesOnly_readWrite device host.temporary
        settings.testMegabytes step step_mem command runs
      have other := DiagnosticSuite.not_destructive_of_readWritePrograms _ program_mem
      rcases CommandLine.formats_writes_of_program other with ⟨formats, writes⟩
      refine ⟨formats, fun _ => ⟨?_, parts.1⟩, writes⟩
      simpa [SuiteKind.hasWritePart] using parts.2
    · rw [if_neg permitted] at readWrite
      cases readWrite

theorem performDiagnose_executes (configuration : Configuration) (target : Target)
    (suite : SuiteKind) (allowWrite : Bool) (output : Option FilePath) :
    Respects (Ran (DiagnosticCommand suite allowWrite))
      (host.performDiagnose configuration target suite allowWrite output).run := by
  apply Respects.performDiagnose World.chains_ran Ran.respects_print host
  · intro node
    exact (harmless_probe host _ node).mono fun ran => ran.mono diagnosticCommand_of_isHarmless
  · exact saveReports_ran
  · intro device other other_mem step step_mem command runs
    exact Ran.respects_run host (diagnosticCommand_of_requested host other_mem step_mem runs)

end Host

end TapeAdmin
