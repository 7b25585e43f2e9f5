import TapeAdmin.Cartridge.Request
import TapeAdmin.Device.Discovery
import TapeAdmin.Diagnostics.Run
import TapeAdmin.Mount.Control
import TapeAdmin.Proofs.Host.Relation
import TapeAdmin.Status
import TapeAdmin.Volume.Format

/-!
# What procedures are made of

For each procedure the commands that it is made of: a relation that chains holds of the procedure if
it holds of running each of these commands.
-/

namespace TapeAdmin

namespace Respects

variable {σ : Type} {relation : World σ → World σ → Prop} (chains : World.Chains relation)
  (host : Host σ)

include chains

theorem tryEach {commands : List CommandLine}
    (runs : ∀ command ∈ commands, Respects relation (host.run command)) :
    Respects relation (host.tryEach commands) := by
  induction commands with
  | nil => exact pure chains _
  | cons command rest ih =>
      have first := runs command List.mem_cons_self
      cases rest with
      | nil => exact bind chains first fun _ => pure chains _
      | cons next rest =>
          have later := ih fun other other_mem => runs other (List.mem_cons_of_mem _ other_mem)
          refine bind chains first fun output => ?_
          split
          · exact pure chains _
          · exact bind chains later fun _ => pure chains _

theorem eject {device : FilePath}
    (runs : ∀ operation : TapeOperation, Respects relation (host.run (operation.command device))) :
    Respects relation (host.eject device) := by
  apply tryEach chains
  intro command command_mem
  simp only [List.mem_cons, List.not_mem_nil, or_false] at command_mem
  rcases command_mem with rfl | rfl
  · exact runs .eject
  · exact runs .offline

theorem operate {device : FilePath}
    (runs : ∀ operation : TapeOperation, Respects relation (host.run (operation.command device)))
    (operation : TapeOperation) : Respects relation (host.operate device operation) := by
  rw [Host.operate]
  split
  · exact map (eject chains host runs) _
  · exact runs operation

theorem tapeInformation {device : FilePath}
    (runs : ∀ operation : TapeOperation, Respects relation (host.run (operation.command device))) :
    Respects relation (host.tapeInformation device) :=
  bind chains (operate chains host runs .status) fun _ => pure chains _

theorem answering {settings : DiscoverySettings}
    (probes : ∀ node, Respects relation (host.run (Discovery.statusRequest settings node)))
    (nodes : List DeviceNode) : Respects relation (Discovery.answering host settings nodes) := by
  induction nodes with
  | nil => exact pure chains _
  | cons node nodes ih =>
      rw [Discovery.answering]
      split
      · exact bind chains (probes node) fun output => bind chains ih fun admitted => pure chains _
      · exact bind chains ih fun admitted => pure chains _

theorem applyPolicy {settings : DiscoverySettings}
    (probes : ∀ node, Respects relation (host.run (Discovery.statusRequest settings node)))
    (nodes : List DeviceNode) : Respects relation (Discovery.applyPolicy host settings nodes) := by
  rw [Discovery.applyPolicy]
  split
  · exact pure chains _
  · dsimp only
    split
    · exact pure chains _
    · exact bind chains (answering chains host probes _) fun _ => pure chains _

theorem discover {settings : DiscoverySettings}
    (probes : ∀ node, Respects relation (host.run (Discovery.statusRequest settings node))) :
    Respects relation (host.discover settings) := by
  refine bind chains (fun world => chains.refl world) fun world => ?_
  exact bind chains (applyPolicy chains host probes _) fun _ => pure chains _

theorem unmount (table : MountTable) {mountPoint : FilePath}
    (runs : ∀ command ∈ unmountCommands mountPoint, Respects relation (host.run command)) :
    Respects relation (host.unmount table mountPoint) :=
  bind chains (tryEach chains host runs) fun _ => pure chains _

theorem prepareMount (settings : MountSettings) {request : MountRequest}
    (creates : Respects relation (Host.createMountPoint request.mountPoint : Procedure σ _))
    (operates : ∀ operation : TapeOperation,
      Respects relation (host.run (operation.command request.device))) :
    Respects relation (host.prepareMount settings request) := by
  refine bind chains creates fun created => ?_
  split
  · exact pure chains _
  · split
    · have rewinds := operate chains host operates .rewind
      exact bind chains (map rewinds _) fun _ => pure chains _
    · exact pure chains _

theorem tryMount (table : MountTable) {request : MountRequest}
    (runs : ∀ command ∈ request.commands, Respects relation (host.run command)) :
    Respects relation (host.tryMount table request) := by
  refine bind chains (tryEach chains host runs) fun attempts => ?_
  split <;> exact pure chains _

theorem mount (settings : MountSettings) (table : MountTable) {request : MountRequest}
    (creates : Respects relation (Host.createMountPoint request.mountPoint : Procedure σ _))
    (operates : ∀ operation : TapeOperation,
      Respects relation (host.run (operation.command request.device)))
    (runs : ∀ command ∈ request.commands, Respects relation (host.run command)) :
    Respects relation (host.mount settings table request) := by
  refine bind chains (prepareMount chains host settings creates operates) fun prepared => ?_
  split
  · exact pure chains _
  · exact tryMount chains host table runs

theorem listMounts (runs : Respects relation (host.run Host.listMountsCommand)) :
    Respects relation host.listMounts.run :=
  attempt_bind chains (attempt_lift runs) fun _ =>
    attempt_bind chains (attempt_of_except chains _) fun _ => attempt_pure chains _

theorem status {settings : DiscoverySettings}
    (probes : ∀ node, Respects relation (host.run (Discovery.statusRequest settings node)))
    (runs : ∀ command ∈ [versionCommand, Host.listMountsCommand, kernelCommand],
      Respects relation (host.run command)) :
    Respects relation (host.status settings) := by
  simp only [List.mem_cons, List.not_mem_nil, or_false, forall_eq_or_imp, forall_eq] at runs
  rcases runs with ⟨version, mounts, kernel⟩
  refine bind chains version fun _ => ?_
  refine bind chains (discover chains host probes) fun _ => ?_
  refine bind chains (listMounts chains host mounts) fun _ => ?_
  exact bind chains kernel fun _ => pure chains _

theorem cartridgeSummary {device : FilePath}
    (runs : Respects relation (host.run (Host.summaryCommand device))) :
    Respects relation (host.cartridgeSummary device).run :=
  attempt_bind chains (attempt_lift runs) fun _ =>
    attempt_bind chains (attempt_of_except chains _) fun _ => attempt_pure chains _

theorem readAttributes {device : FilePath} {id : Option UInt16} {partition : UInt8}
    (reads : Respects relation (host.execute
      { command := Host.readCommand host.temporary device id partition })) :
    Respects relation (host.readAttributes device id partition).run := by
  refine attempt_bind chains (attempt_lift reads) fun reply => ?_
  refine attempt_bind chains (attempt_map (attempt_of_except chains _) _) fun _ => ?_
  split
  · exact attempt_throw chains _
  · exact attempt_pure chains _

theorem runStep {step : DiagnosticStep}
    (runs : ∀ command, step.action = .run command → Respects relation (host.run command)) :
    Respects relation (host.runStep step) := by
  rw [Host.runStep]
  split
  · next command action => exact bind chains (runs command action) fun _ => pure chains _
  · exact pure chains _

theorem runSteps {steps : List DiagnosticStep}
    (runs : ∀ step ∈ steps, ∀ command, step.action = .run command →
      Respects relation (host.run command)) :
    Respects relation (host.runSteps steps) := by
  induction steps with
  | nil => exact pure chains _
  | cons step steps ih =>
      have first := runStep chains host (runs step List.mem_cons_self)
      have later := ih fun other other_mem => runs other (List.mem_cons_of_mem _ other_mem)
      refine bind chains first fun result => ?_
      split
      · exact pure chains _
      · exact bind chains later fun _ => pure chains _

theorem runSuites (device : FilePath) {suites : List DiagnosticSuite}
    (runs : ∀ suite ∈ suites, ∀ step ∈ suite.steps, ∀ command, step.action = .run command →
      Respects relation (host.run command)) :
    Respects relation (host.runSuites device suites) := by
  induction suites with
  | nil => exact pure chains _
  | cons suite suites ih =>
      have first := runSteps chains host (runs suite List.mem_cons_self)
      have later := ih fun other other_mem => runs other (List.mem_cons_of_mem _ other_mem)
      refine bind chains (bind chains first fun _ => pure chains _) fun report => ?_
      exact bind chains later fun _ => pure chains _

theorem diagnose {settings : DiagnosticSettings} {kind : SuiteKind} {device : FilePath}
    {allowWrite : Bool}
    (runs : ∀ suite ∈ host.requestedSuites settings kind device allowWrite, ∀ step ∈ suite.steps,
      ∀ command, step.action = .run command → Respects relation (host.run command)) :
    Respects relation (host.diagnose settings kind device allowWrite).run := by
  rw [Host.diagnose]
  split
  · exact attempt_bind chains (attempt_throw chains _) fun _ =>
      attempt_lift (runSuites chains host device runs)
  · exact attempt_lift (runSuites chains host device runs)

theorem withVendorBlockSize (settings : FormatSettings) {request : FormatRequest}
    (runs : Respects relation (host.run (inquiryCommand request.device))) :
    Respects relation (host.withVendorBlockSize settings request) := by
  rw [Host.withVendorBlockSize]
  split
  · exact bind chains runs fun _ => pure chains _
  · exact pure chains _

end Respects

end TapeAdmin
