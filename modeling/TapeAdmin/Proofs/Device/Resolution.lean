import TapeAdmin.Console.Perform
import TapeAdmin.Proofs.Device.Selection
import TapeAdmin.Proofs.Device.WellFormed
import TapeAdmin.Proofs.Host.Relation

/-!
# Which device is used

The device for a target without a path, all the way from the directory. It is the one selected from
the nodes that a scan lists, unless the permission check denies it. The nodes of a scan have the
names of tape device nodes, so their names never say more than their modes.
-/

namespace TapeAdmin

variable {σ : Type}

theorem Drive.mem_allNodes_of_mem_nodes {drive : Drive} {preference : RewindPreference}
    {node : DeviceNode} (node_mem : node ∈ drive.nodes preference) : node ∈ drive.allNodes := by
  cases preference with
  | rewinding => exact List.mem_append_left _ node_mem
  | nonRewinding => exact List.mem_append_right _ node_mem

namespace DeviceDirectory.Lists

variable {directory : DeviceDirectory} {nodes : List DeviceNode} (lists : directory.Lists nodes)

include lists

theorem hasPlainName_eq {node : DeviceNode} (node_mem : node ∈ nodes) :
    node.hasPlainName = node.isBasic := by
  rcases isNode_of_mem_ranked (lists.mem_ranked node_mem) with ⟨name, is_node⟩
  exact DeviceNode.hasPlainName_eq is_node.fileName? is_node.parsed

/-- A listed path is among the denied ones if the permission check denies it. -/
theorem isIn_denied_iff {node : DeviceNode} (node_mem : node ∈ nodes) :
    node.path.isIn (FilePath.sorted (deniedPaths directory.ranked)) = true ↔
      directory.probe node.path = .denied := by
  rcases isNode_of_mem_ranked (lists.mem_ranked node_mem) with ⟨_, is_node⟩
  rw [← is_node.accessible_iff, FilePath.isIn, List.any_eq_true]
  constructor
  · rintro ⟨path, path_mem, same⟩
    rcases (lists.mem_denied_iff path).mp path_mem with ⟨other, other_mem, denied, rfl⟩
    have equal := DeviceNode.eq_of_same lists.apart node_mem other_mem (FilePath.same_iff.mp same)
    rw [equal, denied]
  · intro denied
    refine ⟨node.path, (lists.mem_denied_iff _).mpr ⟨node, node_mem, denied, rfl⟩, ?_⟩
    exact FilePath.same_iff.mpr (.refl _)

end DeviceDirectory.Lists

namespace Host

/-- A device that is not given by its path is the one selected from a scan, unless it is denied. -/
theorem resolveDevice_run (host : Host σ) (configuration : Configuration) {target : Target}
    (chosen : target.device = none) (world : World σ) :
    ((host.resolveDevice configuration target).run.run world).1 =
      let inventory := ((host.discover configuration.discovery).run world).1
      match inventory.select target.drive target.preference target.mode with
      | .error fault => .error (.noDevice fault.message)
      | .ok device =>
        if device.isIn inventory.denied then .error (.permissionDenied device) else .ok device := by
  rw [resolveDevice, chosen]
  dsimp only
  rw [Attempt.run_bind_lift, printLines, Attempt.run_bind_lift]
  cases ((host.discover configuration.discovery).run world).1.select target.drive
    target.preference target.mode with
  | error fault => rfl
  | ok device =>
      dsimp only
      split <;> rfl

variable {host : Host σ} {configuration : Configuration} {target : Target} {world : World σ}

/-- Of the suitable nodes that are listed the preferred one is used, unless it is denied. -/
theorem resolveDevice_of_preferred (chosen : target.device = none) {node : DeviceNode}
    (preferred : DeviceNode.preferred? (Inventory.suitable
      ((host.discover configuration.discovery).run world).1.listedNodes target.drive
        target.preference) target.mode = some node) :
    ((host.resolveDevice configuration target).run.run world).1 =
      if (host.devices world.files).probe node.path = .denied then
        .error (.permissionDenied node.path)
      else .ok node.path := by
  have lists := Discovery.lists_applyPolicy host configuration.discovery
    (host.devices world.files) world
  rw [Discovery.listedNodes_discover] at preferred
  have node_mem := (Inventory.mem_suitable.mp (DeviceNode.mem_of_preferred? preferred)).1
  have selected := Inventory.select_ofNodes_of_preferred (fun node => lists.hasPlainName_eq)
    (DeviceDirectory.deniedPaths (host.devices world.files).ranked) preferred
  rw [resolveDevice_run host configuration chosen, Discovery.discover_run]
  dsimp only
  rw [selected]
  dsimp only
  simp only [Inventory.ofNodes, lists.isIn_denied_iff node_mem]

/-- Where no suitable node is listed there is no device. -/
theorem resolveDevice_of_none (chosen : target.device = none)
    (none_suitable : Inventory.suitable
      ((host.discover configuration.discovery).run world).1.listedNodes target.drive
        target.preference = []) :
    ∃ reason, ((host.resolveDevice configuration target).run.run world).1 =
      .error (.noDevice reason) := by
  rw [Discovery.listedNodes_discover] at none_suitable
  rcases Inventory.select_ofNodes_of_none (DeviceDirectory.deniedPaths
    (host.devices world.files).ranked) target.mode none_suitable with ⟨fault, unselected⟩
  refine ⟨fault.message, ?_⟩
  rw [resolveDevice_run host configuration chosen, Discovery.discover_run]
  dsimp only
  rw [unselected]

/-- A node of the list is at a listed path, which is among the denied ones only if the permission
check denies it. -/
theorem mem_listed_of_mem_listedNodes (host : Host σ) (settings : DiscoverySettings)
    (world : World σ) {node : DeviceNode} :
    let directory := host.devices world.files
    let inventory := ((host.discover settings).run world).1
    node ∈ inventory.listedNodes →
      node.path ∈ inventory.listed ∧
        (node.path ∈ inventory.denied → directory.probe node.path = .denied) ∧
        ∃ name, directory.IsNode name node := by
  have lists := Discovery.lists_applyPolicy host settings (host.devices world.files) world
  dsimp only
  rw [Discovery.listedNodes_discover]
  intro node_mem
  refine ⟨List.mem_map_of_mem node_mem, ?_,
    DeviceDirectory.isNode_of_mem_ranked (lists.mem_ranked node_mem)⟩
  intro denied
  rw [← lists.isIn_denied_iff node_mem, FilePath.isIn, List.any_eq_true]
  exact ⟨node.path, denied, FilePath.same_iff.mpr (.refl _)⟩

/--
Which device is used for a target without a path. There is none if nothing is listed, if no node of
the drive that is meant is listed, or if none of its nodes is of the wanted kind. Otherwise it is
the first of these nodes, in the order in which they are listed, for the wanted mode, else the first
one of the least mode: looking for a plain name finds what looking for the default mode has found
before. The device is refused if the permission check denies it, and what is not refused is listed,
not denied, and has the name of a node of that drive and kind.
-/
theorem resolveDevice_outcome (host : Host σ) (configuration : Configuration)
    (drive : Option Nat) (nonRewinding : Bool) (mode : Option String) (world : World σ) :
    let target : Target := { drive := drive, nonRewinding := nonRewinding, mode := mode }
    let probe := (host.devices world.files).probe
    let inventory := ((host.discover configuration.discovery).run world).1
    let wanted := Inventory.wantedDrive? inventory.listedNodes drive
    let suitable := Inventory.suitable inventory.listedNodes drive target.preference
    let result := ((host.resolveDevice configuration target).run.run world).1
    ((∃ reason, result = .error (.noDevice reason)) ↔
        inventory.listed = [] ∨
          (∀ node ∈ inventory.listedNodes, some node.drive ≠ wanted) ∨ suitable = []) ∧
      (suitable ≠ [] → ∃ node ∈ suitable, DeviceNode.preferred? suitable mode = some node ∧
        result = if probe node.path = .denied then .error (.permissionDenied node.path)
          else .ok node.path) ∧
      (∀ drive ∈ inventory.drives, ∀ preference,
        (drive.nodes preference).find? DeviceNode.hasPlainName =
          (drive.nodes preference).find? DeviceNode.isBasic) ∧
      ∀ path, result = .ok path →
        path ∈ inventory.listed ∧ path ∉ inventory.denied ∧ probe path ≠ .denied ∧
          ∃ name parsed, path.fileName? = some name ∧ DeviceName.parse? name = some parsed ∧
            some parsed.drive = wanted ∧ parsed.rewinding = !nonRewinding := by
  intro target probe inventory wanted suitable result
  have chosen : target.device = none := rfl
  have used : suitable ≠ [] → ∃ node ∈ suitable, DeviceNode.preferred? suitable mode = some node ∧
      result = if probe node.path = .denied then .error (.permissionDenied node.path)
        else .ok node.path := by
    intro some_suitable
    cases preferred : DeviceNode.preferred? suitable mode with
    | none => exact absurd (DeviceNode.preferred?_eq_none_iff.mp preferred) some_suitable
    | some node =>
        exact ⟨node, DeviceNode.mem_of_preferred? preferred, rfl,
          resolveDevice_of_preferred chosen preferred⟩
  have unused : suitable = [] → ∃ reason, result = .error (.noDevice reason) :=
    resolveDevice_of_none chosen
  refine ⟨?_, used, ?_, ?_⟩
  · constructor
    · rintro ⟨reason, failed⟩
      refine Or.inr (Or.inr ?_)
      by_contra some_suitable
      rcases used some_suitable with ⟨node, _, _, outcome⟩
      rw [failed] at outcome
      split at outcome <;> cases outcome
    · intro none_meant
      apply unused
      rcases none_meant with none_listed | none_meant | none_suitable
      · apply Inventory.suitable_eq_nil
        simp [Inventory.listedNodes, none_listed]
      · exact Inventory.suitable_eq_nil none_meant
      · exact none_suitable
  · intro drive drive_mem preference
    apply DeviceNode.find?_hasPlainName
    intro node node_mem
    have well_formed := (Discovery.lists_applyPolicy host configuration.discovery
      (host.devices world.files) world).wellFormed
    rcases well_formed.node_named node (List.mem_flatMap.mpr
      ⟨drive, drive_mem, Drive.mem_allNodes_of_mem_nodes node_mem⟩) with ⟨name, named, parsed⟩
    exact DeviceNode.hasPlainName_eq named parsed
  · intro path succeeded
    have some_suitable : suitable ≠ [] := by
      intro none_suitable
      rcases unused none_suitable with ⟨reason, failed⟩
      rw [failed] at succeeded
      cases succeeded
    rcases used some_suitable with ⟨node, node_mem, _, outcome⟩
    rw [succeeded] at outcome
    split at outcome
    · cases outcome
    · next not_denied =>
        cases outcome
        rcases Inventory.mem_suitable.mp node_mem with ⟨listed_node, meant, kind⟩
        rcases mem_listed_of_mem_listedNodes host configuration.discovery world listed_node with
          ⟨listed, denied, name, is_node⟩
        have kind : node.rewinding = !nonRewinding := by
          rw [kind, Target.preference]
          cases nonRewinding <;> rfl
        exact ⟨listed, fun path_mem => not_denied (denied path_mem), not_denied, name, _,
          is_node.fileName?, is_node.parsed, meant, kind⟩

theorem listedNodes_twoDrives :
    (((Host.scanning .twoDrives .willing).discover {}).run (.start ())).1.listedNodes =
      [⟨⟨"/dev/st0"⟩, 0, true, .default, true⟩, ⟨⟨"/dev/st1"⟩, 1, true, .default, true⟩,
        ⟨⟨"/dev/nst0"⟩, 0, false, .default, false⟩] := by
  rw [Discovery.listedNodes_discover, Discovery.applyPolicy_rankAll rfl]
  exact DeviceDirectory.ranked_twoDrives

/-- One device that is used, one that is refused, and none at all. -/
theorem resolveDevice_outcome_twoDrives :
    let result (target : Target) :=
      (((Host.scanning .twoDrives .willing).resolveDevice {} target).run.run (.start ())).1
    (result { mode := some "a" } = .ok ⟨"/dev/st0"⟩ ∧
      (DeviceDirectory.twoDrives.probe ⟨"/dev/st0"⟩ ≠ .denied)) ∧
      result { nonRewinding := true } = .error (.permissionDenied ⟨"/dev/nst0"⟩) ∧
      ∃ reason, result { drive := some 1, nonRewinding := true } = .error (.noDevice reason) := by
  intro result
  have nodes := listedNodes_twoDrives
  refine ⟨?_, ?_, ?_⟩
  · rcases resolveDevice_outcome (Host.scanning .twoDrives .willing) {} none false (some "a")
      (.start ()) with ⟨_, used, _, succeeds⟩
    rw [nodes] at used
    rcases used (List.cons_ne_nil _ _) with ⟨node, _, preferred, outcome⟩
    cases preferred
    rw [if_neg (by decide +kernel)] at outcome
    exact ⟨outcome, (succeeds _ outcome).2.2.1⟩
  · rcases resolveDevice_outcome (Host.scanning .twoDrives .willing) {} none true none
      (.start ()) with ⟨_, used, _⟩
    rw [nodes] at used
    rcases used (List.cons_ne_nil _ _) with ⟨node, _, preferred, outcome⟩
    cases preferred
    rwa [if_pos (by decide +kernel)] at outcome
  · rcases resolveDevice_outcome (Host.scanning .twoDrives .willing) {} (some 1) true none
      (.start ()) with ⟨missing, _⟩
    rw [nodes] at missing
    exact missing.mpr (Or.inr (Or.inr rfl))

end Host

end TapeAdmin
