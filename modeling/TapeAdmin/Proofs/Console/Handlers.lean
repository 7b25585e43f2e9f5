import TapeAdmin.Console.Perform
import TapeAdmin.Proofs.Host.Procedures

/-!
# What requests are made of

For each request the printing, the probes and the commands that carrying it out is made of. The two
requests that destroy data, formatting and writing an attribute, are not among them: what they do
depends on more than a relation can say.
-/

namespace TapeAdmin

namespace Respects

variable {σ : Type} {relation : World σ → World σ → Prop} (chains : World.Chains relation)
  (prints : ∀ text, Respects relation (print text : Procedure σ Unit))

include chains prints

omit chains in
theorem printLines (lines : List String) :
    Respects relation (Host.printLines lines : Attempt σ Unit).run :=
  attempt_lift (prints _)

omit prints in
theorem requireSuccess (action : String) (succeeded : Bool) (reason : String) :
    Respects relation (Host.requireSuccess action succeeded reason : Attempt σ Unit).run := by
  rw [Host.requireSuccess]
  split
  · exact attempt_pure chains _
  · exact attempt_throw chains _

omit prints in
theorem requireDriveSuccess (action : String) (device : FilePath) (output : CommandOutput) :
    Respects relation (Host.requireDriveSuccess action device output : Attempt σ Unit).run := by
  rw [Host.requireDriveSuccess]
  split
  · exact attempt_throw chains _
  · exact requireSuccess chains _ _ _

variable (host : Host σ) {configuration : Configuration}
  (probes : ∀ node,
    Respects relation (host.run (Discovery.statusRequest configuration.discovery node)))

include probes

theorem resolveDevice (target : Target) :
    Respects relation (host.resolveDevice configuration target).run := by
  rw [Host.resolveDevice]
  split
  · exact attempt_pure chains _
  · refine attempt_bind chains (attempt_lift (discover chains host probes)) fun inventory => ?_
    refine attempt_bind chains (printLines prints _) fun _ => ?_
    split
    · exact attempt_throw chains _
    · split
      · exact attempt_throw chains _
      · exact attempt_pure chains _

theorem performList (detailed json : Bool) :
    Respects relation (host.performList configuration detailed json).run := by
  refine attempt_bind chains (attempt_lift (discover chains host probes)) fun inventory => ?_
  split
  · exact attempt_bind chains (printLines prints _) fun _ => printLines prints _
  · exact printLines prints _

theorem performSelect (target : Target) :
    Respects relation (host.performSelect configuration target).run :=
  attempt_bind chains (resolveDevice chains prints host probes target) fun _ =>
    printLines prints _

theorem performStatus
    (runs : ∀ command ∈ [versionCommand, Host.listMountsCommand, kernelCommand],
      Respects relation (host.run command)) :
    Respects relation (host.performStatus configuration).run :=
  attempt_bind chains (attempt_lift (status chains host probes runs)) fun _ =>
    attempt_lift (prints _)

theorem performInfo (target : Target)
    (runs : ∀ (operation : TapeOperation) device,
      Respects relation (host.run (operation.command device))) :
    Respects relation (host.performInfo configuration target).run := by
  refine attempt_bind chains (resolveDevice chains prints host probes target) fun device => ?_
  refine attempt_bind chains (printLines prints _) fun _ => ?_
  have asks := tapeInformation chains host fun operation => runs operation device
  exact attempt_bind chains (attempt_lift asks) fun _ => printLines prints _

theorem performEject (target : Target)
    (runs : ∀ (operation : TapeOperation) device,
      Respects relation (host.run (operation.command device))) :
    Respects relation (host.performEject configuration target).run := by
  refine attempt_bind chains (resolveDevice chains prints host probes target) fun device => ?_
  have ejects := eject chains host fun operation => runs operation device
  refine attempt_bind chains (attempt_lift ejects) fun attempts => ?_
  refine attempt_bind chains (printLines prints _) fun _ => ?_
  exact requireDriveSuccess chains _ _ _

theorem performOperation (target : Target) (operation : TapeOperation)
    (runs : ∀ (operation : TapeOperation) device,
      Respects relation (host.run (operation.command device))) :
    Respects relation (host.performOperation configuration target operation).run := by
  rw [Host.performOperation]
  split
  · exact performEject chains prints host probes target runs
  · refine attempt_bind chains (resolveDevice chains prints host probes target) fun device => ?_
    have operates := operate chains host (fun operation => runs operation device) operation
    refine attempt_bind chains (attempt_lift operates) fun output => ?_
    refine attempt_bind chains (printLines prints _) fun _ => ?_
    exact requireDriveSuccess chains _ _ _

theorem performMount (target : Target) (mountPoint : Option FilePath) (options : List String)
    (creates : ∀ path, Respects relation (Host.createMountPoint path : Procedure σ _))
    (operates : ∀ (operation : TapeOperation) device,
      Respects relation (host.run (operation.command device)))
    (runs : ∀ (request : MountRequest), ∀ command ∈ request.commands,
      Respects relation (host.run command)) :
    Respects relation (host.performMount configuration target mountPoint options).run := by
  refine attempt_bind chains (resolveDevice chains prints host probes target) fun device => ?_
  refine attempt_bind chains (printLines prints _) fun _ => ?_
  refine attempt_bind chains (attempt_lift ?_) fun result => ?_
  · exact mount chains host _ _ (creates _) (fun operation => operates operation _) (runs _)
  · refine attempt_bind chains (printLines prints _) fun _ => ?_
    split
    · exact attempt_bind chains (printLines prints _) fun _ => requireSuccess chains _ _ _
    · exact requireSuccess chains _ _ _

omit probes in
theorem performUnmount {mountPoint : FilePath}
    (runs : ∀ command ∈ unmountCommands mountPoint, Respects relation (host.run command)) :
    Respects relation (host.performUnmount mountPoint).run := by
  refine attempt_bind chains (attempt_lift (unmount chains host .empty runs)) fun result => ?_
  refine attempt_bind chains (printLines prints _) fun _ => ?_
  exact requireSuccess chains _ _ _

omit probes in
theorem performMounts (runs : Respects relation (host.run Host.listMountsCommand)) :
    Respects relation host.performMounts.run :=
  attempt_bind chains (listMounts chains host runs) fun _ => printLines prints _

omit probes in
theorem keepReports (output : Option FilePath) (reports : List SuiteReport)
    (saves : ∀ path, Respects relation (saveReports path reports : Attempt σ Unit).run) :
    Respects relation (Host.keepReports reports output : Attempt σ Unit).run := by
  cases output with
  | none => exact printLines prints _
  | some path => exact attempt_bind chains (saves path) fun _ => printLines prints _

theorem performDiagnose (target : Target) {kind : SuiteKind} {allowWrite : Bool}
    (output : Option FilePath)
    (saves : ∀ path reports, Respects relation (saveReports path reports : Attempt σ Unit).run)
    (runs : ∀ device,
      ∀ suite ∈ host.requestedSuites configuration.diagnostics kind device allowWrite,
        ∀ step ∈ suite.steps, ∀ command, step.action = .run command →
          Respects relation (host.run command)) :
    Respects relation (host.performDiagnose configuration target kind allowWrite output).run := by
  refine attempt_bind chains (resolveDevice chains prints host probes target) fun device => ?_
  refine attempt_bind chains (diagnose chains host (runs device)) fun reports => ?_
  refine attempt_bind chains (printLines prints _) fun _ => ?_
  have keeps := keepReports chains prints output reports fun path => saves path reports
  exact attempt_bind chains keeps fun _ => requireSuccess chains _ _ _

theorem performAttributes_summary (target : Target)
    (runs : ∀ device, Respects relation (host.run (Host.summaryCommand device))) :
    Respects relation (host.performAttributes configuration target .summary).run := by
  refine attempt_bind chains (resolveDevice chains prints host probes target) fun device => ?_
  refine attempt_bind chains (cartridgeSummary chains host (runs device)) fun summary => ?_
  exact printLines prints _

theorem performAttributes_read (target : Target) {id : Option UInt16} {partition : UInt8}
    (reads : ∀ device, Respects relation (host.execute
      { command := Host.readCommand host.temporary device id partition })) :
    Respects relation (host.performAttributes configuration target (.read id partition)).run := by
  refine attempt_bind chains (resolveDevice chains prints host probes target) fun device => ?_
  refine attempt_bind chains (readAttributes chains host (reads device)) fun items => ?_
  exact printLines prints _

end Respects

end TapeAdmin
