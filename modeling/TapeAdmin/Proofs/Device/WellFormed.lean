import TapeAdmin.Proofs.Device.Admission

/-!
# Inventories are well-formed

An inventory tells the same thing three times: which paths are listed, which nodes the drives have,
and which paths are denied. The three agree on every inventory that a scan makes, whatever is in the
directory, whatever the permission check and the tools answer, and under either policy.
-/

namespace TapeAdmin

variable {σ : Type}

/-- An inventory of a directory whose views agree with each other and with the directory. -/
structure Inventory.WellFormed (directory : DeviceDirectory) (inventory : Inventory) : Prop where
  /-- No two listed paths are the same. -/
  listed_distinct : inventory.listed.Pairwise fun path other => ¬path.Same other
  /-- The nodes of the drives are the listed paths, each once. -/
  nodes_listed : (inventory.driveNodes.map DeviceNode.path).Perm inventory.listed
  /-- Drives have different numbers, and stand in their order. -/
  drives_ordered : (inventory.drives.map Drive.number).Pairwise (· < ·)
  drives_nonempty : ∀ drive ∈ inventory.drives, drive.allNodes ≠ []
  /-- A node is with its drive, among those of its kind. -/
  node_placed : ∀ drive ∈ inventory.drives, ∀ preference, ∀ node ∈ drive.nodes preference,
    node.drive = drive.number ∧ node.rewinding = preference.rewinds
  /-- Every node is one of the directory. -/
  node_held : ∀ node ∈ inventory.driveNodes, directory.Holds node
  /-- Only nodes with read permission are left out, and not all of them. -/
  denied_held : ∀ node, directory.Holds node → node.accessible = false →
    node ∈ inventory.driveNodes
  some_held : ∀ node, directory.Holds node → inventory.listed ≠ []
  /-- A node is what its file name says. -/
  node_named : ∀ node ∈ inventory.driveNodes, ∃ name, node.path.fileName? = some name ∧
    DeviceName.parse? name = some ⟨node.drive, node.rewinding, node.mode⟩
  /-- The default mode comes first, and the others in their order. -/
  modes_ordered : ∀ drive ∈ inventory.drives, ∀ preference,
    (drive.nodes preference).Pairwise fun node other => node.mode.rank ≤ other.mode.rank
  single_iff : inventory.isSingleDrive = true ↔ ∃ drive, inventory.drives = [drive]
  /-- A node is inaccessible if the permission check denies it. -/
  accessible_iff : ∀ node ∈ inventory.driveNodes,
    node.accessible = false ↔ directory.probe node.path = .denied
  /-- The denied paths are those of the inaccessible nodes. -/
  denied_iff : ∀ path, path ∈ inventory.denied ↔
    ∃ node ∈ inventory.driveNodes, node.accessible = false ∧ node.path = path
  denied_distinct : inventory.denied.Pairwise fun path other => ¬path.Same other

namespace DeviceDirectory

variable {directory : DeviceDirectory} {nodes : List DeviceNode}

theorem deniedPaths_distinct (directory : DeviceDirectory) :
    (deniedPaths directory.ranked).Pairwise fun path other => ¬path.Same other :=
  List.pairwise_map.mpr (directory.pairwise_ranked.filter _)

theorem Lists.mem_driveNodes (denied : List FilePath) {node : DeviceNode} :
    node ∈ (Inventory.ofNodes nodes denied).driveNodes ↔ node ∈ nodes :=
  (Inventory.driveNodes_ofNodes_perm nodes denied).mem_iff

/-- The denied paths are those of the listed nodes without read permission, since these are all
listed. -/
theorem Lists.mem_denied_iff (lists : directory.Lists nodes) (path : FilePath) :
    path ∈ FilePath.sorted (deniedPaths directory.ranked) ↔
      ∃ node ∈ nodes, node.accessible = false ∧ node.path = path := by
  rw [(FilePath.sorted_perm directory.deniedPaths_distinct).mem_iff, deniedPaths, List.mem_map]
  constructor
  · rintro ⟨node, node_mem, rfl⟩
    rw [List.mem_filter, Bool.not_eq_true'] at node_mem
    exact ⟨node, lists.mem_of_denied node_mem.1 node_mem.2, node_mem.2, rfl⟩
  · rintro ⟨node, node_mem, denied, rfl⟩
    exact ⟨node, List.mem_filter.mpr ⟨lists.mem_ranked node_mem, by simp [denied]⟩, rfl⟩

/-- The inventory of nodes that are listed out of those of a directory is well-formed. -/
theorem Lists.wellFormed (lists : directory.Lists nodes) :
    (Inventory.ofNodes nodes (deniedPaths directory.ranked)).WellFormed directory := by
  have is_node : ∀ node ∈ nodes, ∃ name, directory.IsNode name node :=
    fun node node_mem => isNode_of_mem_ranked (lists.mem_ranked node_mem)
  constructor
  case listed_distinct => exact List.pairwise_map.mpr lists.apart
  case nodes_listed => exact (Inventory.driveNodes_ofNodes_perm nodes _).map DeviceNode.path
  case drives_ordered =>
    have numbers : (Inventory.ofNodes nodes (deniedPaths directory.ranked)).drives.map
        Drive.number = Inventory.driveNumbers nodes := by
      simp [Inventory.ofNodes, Drive.ofNodes, Function.comp_def]
    rw [numbers]
    exact Inventory.pairwise_driveNumbers nodes
  case drives_nonempty =>
    intro drive drive_mem none_left
    rcases Inventory.mem_drives_ofNodes.mp drive_mem with ⟨node, node_mem, rfl⟩
    have own : node ∈ nodes.filter fun other => other.drive == node.drive :=
      List.mem_filter.mpr ⟨node_mem, by simp⟩
    rw [← (Drive.allNodes_ofNodes_perm node.drive nodes).mem_iff, none_left] at own
    cases own
  case node_placed =>
    intro drive drive_mem preference node node_mem
    rcases Inventory.mem_drives_ofNodes.mp drive_mem with ⟨_, _, rfl⟩
    exact (Drive.mem_nodes_ofNodes.mp node_mem).2
  case node_held =>
    intro node node_mem
    exact mem_ranked_iff.mp (lists.mem_ranked ((Lists.mem_driveNodes _).mp node_mem))
  case denied_held =>
    intro node held denied
    exact (Lists.mem_driveNodes _).mpr (lists.mem_of_denied (mem_ranked_iff.mpr held) denied)
  case some_held =>
    intro node held none_listed
    have none_ranked := lists.nonempty (List.map_eq_nil_iff.mp none_listed)
    have node_mem := mem_ranked_iff.mpr held
    rw [none_ranked] at node_mem
    cases node_mem
  case node_named =>
    intro node node_mem
    rcases is_node node ((Lists.mem_driveNodes _).mp node_mem) with ⟨name, is_node⟩
    exact ⟨name, is_node.fileName?, is_node.parsed⟩
  case modes_ordered =>
    intro drive drive_mem preference
    rcases Inventory.mem_drives_ofNodes.mp drive_mem with ⟨_, _, rfl⟩
    exact Drive.pairwise_nodes_ofNodes _ nodes preference
  case single_iff => rw [Inventory.isSingleDrive, beq_iff_eq, List.length_eq_one_iff]
  case accessible_iff =>
    intro node node_mem
    rcases is_node node ((Lists.mem_driveNodes _).mp node_mem) with ⟨_, is_node⟩
    exact is_node.accessible_iff
  case denied_iff =>
    intro path
    simp only [Lists.mem_driveNodes]
    exact lists.mem_denied_iff path
  case denied_distinct =>
    have perm := FilePath.sorted_perm directory.deniedPaths_distinct
    exact (perm.pairwise_iff fun apart same => apart same.symm).mpr directory.deniedPaths_distinct

end DeviceDirectory

/-- Every scan makes a well-formed inventory. -/
theorem Host.discover_wellFormed (host : Host σ) (settings : DiscoverySettings) (world : World σ) :
    ((host.discover settings).run world).1.WellFormed (host.devices world.files) := by
  rw [Discovery.discover_run]
  exact (Discovery.lists_applyPolicy host settings _ world).wellFormed

end TapeAdmin
