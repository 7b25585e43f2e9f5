import TapeAdmin.Console.Perform
import TapeAdmin.Proofs.Device.Admission
import TapeAdmin.Proofs.Host.Relation

/-!
# The order of enumeration

A directory may be enumerated in any order. As long as no two tape device nodes of it are the same
node of the same drive, the order of rank depends on the set of its entries alone, and so does
everything that is done with it: what a scan executes, what it finds, and the device that a target
means.
-/

namespace TapeAdmin

variable {σ : Type}

namespace DeviceDirectory

/-- No two names of tape device nodes among the entries are read as the same name. -/
def Unambiguous (entries : List DeviceEntry) : Prop :=
  ∀ entry ∈ entries, ∀ other ∈ entries,
    entry.isCharacterDevice = true → other.isCharacterDevice = true →
      (DeviceName.parse? entry.name).isSome = true →
        DeviceName.parse? entry.name = DeviceName.parse? other.name → entry.name = other.name

/-- A directory with other entries. -/
def withEntries (directory : DeviceDirectory) (entries : List DeviceEntry) : DeviceDirectory :=
  { directory with entries := .ok entries }

variable {directory : DeviceDirectory} {entries others : List DeviceEntry} {node : DeviceNode}

theorem holds_withEntries_iff :
    (directory.withEntries entries).Holds node ↔
      ∃ entry ∈ entries, entry.isCharacterDevice = true ∧ directory.IsNode entry.name node := by
  constructor
  · rintro ⟨_, read, entry, entry_mem, device, is_node⟩
    cases read
    exact ⟨entry, entry_mem, device, is_node.parsed, is_node.path_eq, is_node.probed⟩
  · rintro ⟨entry, entry_mem, device, is_node⟩
    exact ⟨entries, rfl, entry, entry_mem, device,
      ⟨is_node.parsed, is_node.path_eq, is_node.probed⟩⟩

theorem nodup_ranked (directory : DeviceDirectory) : directory.ranked.Nodup := by
  refine directory.pairwise_ranked.imp ?_
  rintro node _ apart rfl
  exact apart (.refl _)

/-- Nodes of the same rank belong to the same drive, and agree in mode and rewinding. -/
theorem eq_of_rankLe {node other : DeviceNode} (le : node.rankLe other = true)
    (ge : other.rankLe node = true) :
    node.drive = other.drive ∧ node.rewinding = other.rewinding ∧ node.mode = other.mode := by
  rw [rankLe_iff] at le ge
  have group_eq : node.group = other.group := by omega
  have drive_eq : node.drive = other.drive := by omega
  have mode_eq : node.mode = other.mode := DensityMode.rank_injective (by omega)
  refine ⟨drive_eq, ?_, mode_eq⟩
  simp only [DeviceNode.group, DeviceNode.isBasic, mode_eq] at group_eq
  revert group_eq
  cases other.mode.isDefault <;> cases node.rewinding <;> cases other.rewinding <;> simp

/-- Among unambiguous names the rank determines the node. -/
theorem Unambiguous.eq_of_rankLe (unambiguous : Unambiguous entries) {other : DeviceNode}
    (node_mem : node ∈ (directory.withEntries entries).ranked)
    (other_mem : other ∈ (directory.withEntries entries).ranked)
    (le : node.rankLe other = true) (ge : other.rankLe node = true) : node = other := by
  rcases holds_withEntries_iff.mp (mem_ranked_iff.mp node_mem) with
    ⟨entry, entry_mem, device, is_node⟩
  rcases holds_withEntries_iff.mp (mem_ranked_iff.mp other_mem) with
    ⟨other_entry, other_entry_mem, other_device, is_other⟩
  rcases DeviceDirectory.eq_of_rankLe le ge with ⟨drive_eq, rewinding_eq, mode_eq⟩
  have read_same : DeviceName.parse? entry.name = DeviceName.parse? other_entry.name := by
    rw [is_node.parsed, is_other.parsed, drive_eq, rewinding_eq, mode_eq]
  -- The rank says what a name is read as, and not how it is written: this is where two names of one
  -- node are excluded.
  have name_eq := unambiguous entry entry_mem other_entry other_entry_mem device other_device
    (by rw [is_node.parsed]; rfl) read_same
  apply is_node.eq_of_same is_other
  rw [is_node.path_eq, is_other.path_eq, name_eq]
  exact .refl _

/-- The order of rank depends on the set of the entries alone. -/
theorem ranked_eq_of_same_entries (unambiguous : Unambiguous entries)
    (same : ∀ entry, entry ∈ entries ↔ entry ∈ others) :
    (directory.withEntries entries).ranked = (directory.withEntries others).ranked := by
  have same_nodes (node : DeviceNode) :
      node ∈ (directory.withEntries entries).ranked ↔
        node ∈ (directory.withEntries others).ranked := by
    simp only [mem_ranked_iff, holds_withEntries_iff, same]
  have perm := (List.perm_ext_iff_of_nodup (nodup_ranked _) (nodup_ranked _)).mpr same_nodes
  refine perm.eq_of_pairwise ?_ (sorted_ranked _) (sorted_ranked _)
  intro node other node_mem other_mem
  exact unambiguous.eq_of_rankLe node_mem ((same_nodes other).mpr other_mem)

/-- Two names of one node keep the order of enumeration. -/
example :
    (twoDrives.withEntries [⟨"st0", true⟩, ⟨"st00", true⟩]).ranked.map (·.path.text) =
        ["/dev/st0", "/dev/st00"] ∧
      (twoDrives.withEntries [⟨"st00", true⟩, ⟨"st0", true⟩]).ranked.map (·.path.text) =
        ["/dev/st00", "/dev/st0"] := by
  have in_order : (twoDrives.withEntries [⟨"st0", true⟩, ⟨"st00", true⟩]).scan.Pairwise
      fun node other => node.rankLe other = true := by
    decide +kernel
  have in_other_order : (twoDrives.withEntries [⟨"st00", true⟩, ⟨"st0", true⟩]).scan.Pairwise
      fun node other => node.rankLe other = true := by
    decide +kernel
  rw [ranked, ranked, List.mergeSort_of_pairwise in_order,
    List.mergeSort_of_pairwise in_other_order]
  exact ⟨rfl, rfl⟩

end DeviceDirectory

namespace Host

open DeviceDirectory (Unambiguous)

variable (host : Host σ)

/-- A host whose device directory has other entries. -/
def withEntries (host : Host σ) (entries : List DeviceEntry) : Host σ :=
  { host with devices := fun files => (host.devices files).withEntries entries }

theorem answering_withEntries (settings : DiscoverySettings) (entries : List DeviceEntry)
    (nodes : List DeviceNode) :
    Discovery.answering (host.withEntries entries) settings nodes =
      Discovery.answering host settings nodes := by
  induction nodes with
  | nil => rfl
  | cons node nodes ih =>
      rw [Discovery.answering, Discovery.answering, ih]
      rfl

theorem applyPolicy_withEntries (settings : DiscoverySettings) (entries : List DeviceEntry)
    (nodes : List DeviceNode) :
    Discovery.applyPolicy (host.withEntries entries) settings nodes =
      Discovery.applyPolicy host settings nodes := by
  simp only [Discovery.applyPolicy, answering_withEntries]

theorem discover_withEntries_run (settings : DiscoverySettings) (entries : List DeviceEntry)
    (world : World σ) :
    ((host.withEntries entries).discover settings).run world =
      let nodes := ((host.devices world.files).withEntries entries).ranked
      let policy := (Discovery.applyPolicy host settings nodes).run world
      (Inventory.ofNodes policy.1 (DeviceDirectory.deniedPaths nodes), policy.2) := by
  rw [Discovery.discover_run, applyPolicy_withEntries]
  rfl

/-- Neither what a scan finds nor what it executes depends on the order in which the directory is
enumerated, or on repetitions, and neither does the device that a target means. -/
theorem discover_eq_of_same_entries {entries others : List DeviceEntry}
    (same : ∀ entry, entry ∈ entries ↔ entry ∈ others) (unambiguous : Unambiguous entries)
    (configuration : Configuration) (world : World σ) :
    ((host.withEntries entries).discover configuration.discovery).run world =
        ((host.withEntries others).discover configuration.discovery).run world ∧
      ∀ target,
        ((host.withEntries entries).resolveDevice configuration target).run.run world =
          ((host.withEntries others).resolveDevice configuration target).run.run world := by
  have discovered : ((host.withEntries entries).discover configuration.discovery).run world =
      ((host.withEntries others).discover configuration.discovery).run world := by
    rw [discover_withEntries_run, discover_withEntries_run,
      DeviceDirectory.ranked_eq_of_same_entries unambiguous same]
  refine ⟨discovered, ?_⟩
  intro target
  rw [resolveDevice, resolveDevice]
  cases target.device with
  | some device => rfl
  | none => rw [Attempt.run_bind_lift, Attempt.run_bind_lift, discovered]

/-- A node more often than once, and an entry that is no tape device node in another place. -/
theorem discover_eq_of_same_entries_repeated :
    let entries : List DeviceEntry := [⟨"st0", true⟩, ⟨"sda", true⟩, ⟨"nst0", true⟩, ⟨"st0", true⟩]
    let others : List DeviceEntry := [⟨"nst0", true⟩, ⟨"st0", true⟩, ⟨"sda", true⟩]
    let host := Host.scanning .twoDrives .told
    let asking : Configuration := { discovery := { policy := .primaryWithProbe } }
    ((host.withEntries entries).discover asking.discovery).run (.start [false]) =
        ((host.withEntries others).discover asking.discovery).run (.start [false]) ∧
      ((host.withEntries entries).resolveDevice asking {}).run.run (.start [false]) =
        ((host.withEntries others).resolveDevice asking {}).run.run (.start [false]) := by
  intro entries others host asking
  have same : ∀ entry, entry ∈ entries ↔ entry ∈ others := by
    intro entry
    simp only [entries, others, List.mem_cons, List.not_mem_nil, or_false]
    tauto
  have unambiguous : Unambiguous entries := by
    unfold Unambiguous
    decide +kernel
  rcases discover_eq_of_same_entries host same unambiguous asking (.start [false]) with
    ⟨discovered, resolved⟩
  exact ⟨discovered, resolved {}⟩

end Host

end TapeAdmin
