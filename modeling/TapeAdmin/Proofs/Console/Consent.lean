import TapeAdmin.Proofs.Console.Destructive

/-!
# Consent

Whatever the tools answer, and in whatever order, a command that destroys data is executed only if
the operator asked for exactly that, and a tape is formatted only if the operator also agreed to it,
on the command line or at the terminal.
-/

namespace TapeAdmin

open CommandLine (IsHarmless destructivePrograms)
open World (Executes ExecutesOnce Ran)

variable {σ : Type}

/-- A request that neither formats a tape, nor runs diagnostics, nor writes an attribute. -/
def Request.IsPlain : Request → Prop
  | .format .. | .diagnose .. | .attributes _ (.write ..) => False
  | _ => True

/-- What is executed for a request destroys data only where the operator consents: exactly once what
was agreed to or asked for, and otherwise not at all. -/
structure Consented (host : Host σ) (configuration : Configuration) (world : World σ)
    (request : Request) (executed : List Execution) : Prop where
  formats : ConsentsToFormat host configuration world request ∧
      executed.countP (fun execution => execution.command.formatsTape) = 1 ∨
    ¬ConsentsToFormat host configuration world request ∧
      executed.countP (fun execution => execution.command.formatsTape) = 0
  copies : ConsentsToCopy request ∨
    executed.countP (fun execution => execution.command.copiesData) = 0
  writes : ConsentsToWrite host configuration world request ∧
      executed.countP (fun execution => execution.command.writesAttributes) = 1 ∨
    ¬ConsentsToWrite host configuration world request ∧
      executed.countP (fun execution => execution.command.writesAttributes) = 0

namespace Host

variable {host : Host σ} {configuration : Configuration} {world after : World σ} {request : Request}

theorem consented_of_harmless (executes : Executes IsHarmless world after)
    (noFormat : ¬ConsentsToFormat host configuration world request)
    (noWrite : ¬ConsentsToWrite host configuration world request) :
    ∃ executed, after.executed = world.executed ++ executed ∧
      Consented host configuration world request executed := by
  rcases executes.countP with ⟨executed, executed_eq, not_counted⟩
  refine ⟨executed, executed_eq, Or.inr ⟨noFormat, ?_⟩, Or.inr ?_, Or.inr ⟨noWrite, ?_⟩⟩
  · exact not_counted _ fun _ harmless => harmless.formats
  · exact not_counted _ fun _ harmless => harmless.copies
  · exact not_counted _ fun _ harmless => harmless.writes

/-- One command of a special kind is executed among harmless ones, and the operator consents to what
that kind of command destroys, and to nothing else. -/
theorem consented_of_once {special : CommandLine → Prop}
    (once : ExecutesOnce special IsHarmless world after)
    (formats_iff : ∀ command, special command →
      (command.formatsTape = true ↔ ConsentsToFormat host configuration world request))
    (no_copy : ∀ command, special command → command.copiesData = false)
    (writes_iff : ∀ command, special command →
      (command.writesAttributes = true ↔ ConsentsToWrite host configuration world request)) :
    ∃ executed, after.executed = world.executed ++ executed ∧
      Consented host configuration world request executed := by
  rcases once.countP with ⟨executed, execution, executed_eq, is_special, counts⟩
  have counted {test : CommandLine → Bool} {consent : Prop}
      (harmless : ∀ command, IsHarmless command → test command = false)
      (passes_iff : test execution.command = true ↔ consent) :
      consent ∧ executed.countP (fun execution => test execution.command) = 1 ∨
        ¬consent ∧ executed.countP (fun execution => test execution.command) = 0 := by
    rw [counts test harmless, ← passes_iff]
    cases test execution.command <;> simp
  refine ⟨executed, executed_eq, ?_, Or.inr ?_, ?_⟩
  · exact counted (fun _ harmless => harmless.formats) (formats_iff _ is_special)
  · rw [counts _ fun _ harmless => harmless.copies, no_copy _ is_special]
    rfl
  · exact counted (fun _ harmless => harmless.writes) (writes_iff _ is_special)

theorem consented_of_diagnose {target : Target} {suite : SuiteKind} {allowWrite : Bool}
    {output : Option FilePath}
    (executes : Executes (DiagnosticCommand suite allowWrite) world after) :
    ∃ executed, after.executed = world.executed ++ executed ∧
      Consented host configuration world (.diagnose target suite allowWrite output) executed := by
  rcases executes.countP with ⟨executed, executed_eq, not_counted⟩
  refine ⟨executed, executed_eq, Or.inr ⟨not_false, ?_⟩, ?_, Or.inr ⟨not_false, ?_⟩⟩
  · exact not_counted _ fun _ diagnostic => diagnostic.formats
  · by_cases consents : (suite = .readWrite ∨ suite = .full) ∧ allowWrite = true
    · exact Or.inl consents
    · apply Or.inr
      apply not_counted
      intro command diagnostic
      rw [Bool.eq_false_iff]
      exact fun copies => consents (diagnostic.copies copies)
  · exact not_counted _ fun _ diagnostic => diagnostic.writes

/-- Plain requests execute harmless commands only. -/
theorem perform_ran (host : Host σ) (configuration : Configuration) {request : Request}
    (plain : request.IsPlain) :
    Respects (Ran IsHarmless) (host.perform configuration request).run := by
  have chains : World.Chains (Ran IsHarmless : World σ → World σ → Prop) := World.chains_ran
  have prints : ∀ text, Respects (Ran IsHarmless) (print text : Procedure σ Unit) :=
    Ran.respects_print
  have probes := harmless_probe host configuration.discovery
  have operations := harmless_operation host
  have listing : Respects (Ran IsHarmless) (host.run listMountsCommand) :=
    harmless_of_program host (show "mount" ∉ destructivePrograms by decide)
  cases request with
  | list detailed json => exact .performList chains prints host probes detailed json
  | select target => exact .performSelect chains prints host probes target
  | info target => exact .performInfo chains prints host probes target operations
  | operate target operation =>
      exact .performOperation chains prints host probes target operation operations
  | eject target => exact .performEject chains prints host probes target operations
  | mount target mountPoint options =>
      apply Respects.performMount chains prints host probes target mountPoint options
      · exact Ran.respects_createMountPoint
      · exact operations
      · intro request command command_mem
        rcases List.mem_map.mp command_mem with ⟨extra, _, rfl⟩
        exact harmless_of_program host (show "ltfs" ∉ destructivePrograms by decide)
  | unmount mountPoint =>
      apply Respects.performUnmount chains prints host
      intro command command_mem
      apply harmless_of_program host
      simp only [unmountCommands, List.mem_cons, List.not_mem_nil, or_false] at command_mem
      rcases command_mem with rfl | rfl
      · exact (show "umount" ∉ destructivePrograms by decide)
      · exact (show "fusermount" ∉ destructivePrograms by decide)
  | mounts => exact .performMounts chains prints host listing
  | format target label force blockSize assumeYes => cases plain
  | diagnose target suite allowWrite output => cases plain
  | attributes target action =>
      cases action with
      | summary =>
          apply Respects.performAttributes_summary chains prints host probes target
          intro device
          exact harmless_of_program host (show "tapeinfo" ∉ destructivePrograms by decide)
      | read id partition =>
          apply Respects.performAttributes_read chains prints host probes target
          intro device
          exact Ran.respects_execute host (CommandLine.readCommand_isHarmless _ device id partition)
      | write id value partition => cases plain
  | status =>
      apply Respects.performStatus chains prints host probes
      intro command command_mem
      apply harmless_of_program host
      revert command
      decide

/-- Nothing is destroyed without consent, whatever the tools answer. -/
theorem perform_consented (host : Host σ) (configuration : Configuration) (request : Request)
    (world : World σ) :
    ∃ executed,
      ((host.perform configuration request).run.run world).2.executed =
          world.executed ++ executed ∧
        Consented host configuration world request executed := by
  have plain_consented (plain : request.IsPlain)
      (noFormat : ¬ConsentsToFormat host configuration world request)
      (noWrite : ¬ConsentsToWrite host configuration world request) :=
    consented_of_harmless (perform_ran host configuration plain world).executes noFormat noWrite
  cases request with
  | format target label force blockSize assumeYes =>
      rcases performFormat_outcome host configuration target label force blockSize assumeYes world
        with ⟨consents, once⟩ | ⟨refuses, harmless⟩
      · have others {command : CommandLine} (formats : command.formatsTape = true) :=
          CommandLine.copies_writes_of_formatsTape formats
        apply consented_of_once once
        · exact fun command formats => iff_of_true formats consents
        · exact fun command formats => (others formats).1
        · exact fun command formats => iff_of_false (by simp [(others formats).2]) not_false
      · exact consented_of_harmless harmless refuses not_false
  | diagnose target suite allowWrite output =>
      have diagnoses := performDiagnose_executes host configuration target suite allowWrite output
      exact consented_of_diagnose (diagnoses world).executes
  | attributes target action =>
      cases action with
      | write id value partition =>
          rcases performAttributes_write_outcome host configuration target id value partition world
            with ⟨consents, once⟩ | ⟨refuses, harmless⟩
          · have others {command : CommandLine} (writes : command.writesAttributes = true) :=
              CommandLine.formats_copies_of_writesAttributes writes
            apply consented_of_once once
            · exact fun command writes => iff_of_false (by simp [(others writes).1]) not_false
            · exact fun command writes => (others writes).2
            · exact fun command writes => iff_of_true writes consents
          · exact consented_of_harmless harmless not_false refuses
      | _ => exact plain_consented trivial not_false not_false
  | _ => exact plain_consented trivial not_false not_false

end Host

end TapeAdmin
