import Mathlib.Data.List.Induction
import Mathlib.Data.List.Nodup
import TapeAdmin.Proofs.Device.Refinement

/-!
# What is listed in the order of rank

A scan in the order of rank lists the path of every tape device node of the directory once, whatever
the permission check says, and executes nothing. The order is that of the ranks of the names. Names
of one rank stay in the order in which the directory is enumerated: a name that occurs more than
once counts where it first occurs as a character device.
-/

namespace TapeAdmin

variable {σ : Type}

/-- By what names are ranked, what counts most first: names for the default mode come before the
others, then nodes that rewind before those that do not, then drives and modes in their order. -/
def DeviceName.rank (name : DeviceName) : List Nat :=
  [(!name.mode.isDefault).toNat, (!name.rewinding).toNat, name.drive, name.mode.rank]

/-- A name ranks no later than another: the ranks are the same, or it has the smaller number where
they first differ. -/
def DeviceName.NoLater (name other : DeviceName) : Prop :=
  name.rank = other.rank ∨ List.Lex (· < ·) name.rank other.rank

/-- What the name of a node says. -/
def DeviceNode.said (node : DeviceNode) : DeviceName :=
  ⟨node.drive, node.rewinding, node.mode⟩

theorem eraseDups_concat {α : Type} [DecidableEq α] (items : List α) (item : α) :
    (items ++ [item]).eraseDups =
      if item ∈ items then items.eraseDups else items.eraseDups ++ [item] := by
  rw [List.eraseDups_append]
  by_cases known : item ∈ items
  · simp [List.removeAll, known]
  · simp [List.removeAll, known, List.eraseDups_cons]

namespace DeviceDirectory

/-- The names of the character devices among entries, each where it first occurs. -/
def enumerated (entries : List DeviceEntry) : List String :=
  ((entries.filter DeviceEntry.isCharacterDevice).map DeviceEntry.name).eraseDups

/-- The file names of nodes. -/
def fileNames (nodes : List DeviceNode) : List String :=
  nodes.filterMap fun node => node.path.fileName?

variable {directory : DeviceDirectory} {entries : List DeviceEntry} {name : String}
  {node : DeviceNode}

/-! ### Ranks -/

theorem rankLe_iff_noLater {other : DeviceNode} :
    node.rankLe other = true ↔ node.said.NoLater other.said := by
  rw [rankLe_iff]
  have group_eq (node : DeviceNode) :
      node.group = 2 * (!node.mode.isDefault).toNat + (!node.rewinding).toNat := by
    rw [DeviceNode.group, DeviceNode.isBasic]
    cases node.mode.isDefault <;> cases node.rewinding <;> rfl
  have rewinding_le := Bool.toNat_le (!node.rewinding)
  have other_rewinding_le := Bool.toNat_le (!other.rewinding)
  simp only [DeviceName.NoLater, group_eq, DeviceName.rank, DeviceNode.said, List.cons.injEq,
    List.cons_lex_cons_iff, List.not_lex_nil, and_true, and_false, or_false]
  omega

/-! ### One name for each node -/

theorem firstByPath_concat (nodes : List DeviceNode) (node : DeviceNode) :
    firstByPath (nodes ++ [node]) =
      if (firstByPath nodes).any fun other => other.path.same node.path then firstByPath nodes
      else firstByPath nodes ++ [node] := by
  rw [firstByPath, List.foldl_append]
  rfl

/-- Where nodes have the same path exactly if they have the same name, keeping the first node of
each path keeps the first place of each name. -/
theorem firstByPath_filterMap {node? : String → Option DeviceNode}
    (named : ∀ {name other node other_node}, node? name = some node →
      node? other = some other_node → (node.path.Same other_node.path ↔ name = other))
    (names : List String) :
    firstByPath (names.filterMap node?) = names.eraseDups.filterMap node? := by
  induction names using List.reverseRecOn with
  | nil => rfl
  | append_singleton names name ih =>
      rw [List.filterMap_append, eraseDups_concat]
      cases found : node? name with
      | none =>
          have nothing : [name].filterMap node? = [] := by simp [found]
          rw [nothing, List.append_nil, ih]
          split
          · rfl
          · rw [List.filterMap_append, nothing, List.append_nil]
      | some node =>
          have single : [name].filterMap node? = [node] := by simp [found]
          have seen_iff : ((names.eraseDups.filterMap node?).any fun other =>
              other.path.same node.path) = true ↔ name ∈ names := by
            simp only [List.any_eq_true, List.mem_filterMap, List.mem_eraseDups, FilePath.same_iff]
            constructor
            · rintro ⟨other_node, ⟨other, other_mem, other_found⟩, same⟩
              rwa [(named other_found found).mp same] at other_mem
            · intro known
              exact ⟨node, ⟨name, known, found⟩, .refl _⟩
          rw [single, firstByPath_concat, ih]
          by_cases known : name ∈ names
          · rw [if_pos (seen_iff.mpr known), if_pos known]
          · rw [if_neg (mt seen_iff.mp known), if_neg known, List.filterMap_append, single]

theorem filterMap_node?_eq (entries : List DeviceEntry) :
    entries.filterMap directory.node? =
      ((entries.filter DeviceEntry.isCharacterDevice).map DeviceEntry.name).filterMap
        fun name => directory.node? ⟨name, true⟩ := by
  rw [List.filterMap_map, List.filterMap_filter]
  apply List.filterMap_congr
  rintro ⟨name, device⟩ _
  cases device with
  | true => rfl
  | false => simp [node?]

/-- A scan goes through the names of the character devices, each where it first occurs. -/
theorem scan_eq (read : directory.entries = .ok entries) :
    directory.scan = (enumerated entries).filterMap fun name => directory.node? ⟨name, true⟩ := by
  rw [scan, read]
  dsimp only
  rw [filterMap_node?_eq, enumerated, firstByPath_filterMap]
  intro name other node other_node found other_found
  have is_node := (node?_eq_some_iff.mp found).2
  have is_other := (node?_eq_some_iff.mp other_found).2
  rw [is_node.path_eq, is_other.path_eq]
  exact FilePath.same_join_iff (DeviceName.isPlainName_of_parse? is_node.parsed)
    (DeviceName.isPlainName_of_parse? is_other.parsed)

/-! ### Names in the order of rank -/

section Names

variable {nodes : List DeviceNode}

/-- Every node of a list is one of the directory. -/
def AllNodes (directory : DeviceDirectory) (nodes : List DeviceNode) : Prop :=
  ∀ node ∈ nodes, ∃ name, directory.IsNode name node

theorem map_path_eq (all_nodes : directory.AllNodes nodes) :
    nodes.map DeviceNode.path = (fileNames nodes).map directory.root.join := by
  induction nodes with
  | nil => rfl
  | cons node nodes ih =>
      rcases all_nodes node List.mem_cons_self with ⟨name, is_node⟩
      have later := ih fun other other_mem => all_nodes other (List.mem_cons_of_mem _ other_mem)
      rw [fileNames, List.filterMap_cons, is_node.fileName?, List.map_cons, later, is_node.path_eq]
      rfl

/-- The names of one rank are the file names of the nodes of that rank. -/
theorem filter_fileNames (all_nodes : directory.AllNodes nodes) (rank : List Nat) :
    ((fileNames nodes).filter fun name => (DeviceName.parse? name).map DeviceName.rank == rank) =
      fileNames (nodes.filter fun node => node.said.rank == rank) := by
  rw [fileNames, fileNames, List.filter_filterMap, List.filterMap_filter]
  apply List.filterMap_congr
  intro node node_mem
  rcases all_nodes node node_mem with ⟨name, is_node⟩
  rw [is_node.fileName?, Option.filter_some, is_node.parsed]
  rfl

end Names

theorem AllNodes.of_ranked (directory : DeviceDirectory) : directory.AllNodes directory.ranked :=
  fun _ node_mem => isNode_of_mem_ranked node_mem

theorem AllNodes.of_scan (directory : DeviceDirectory) : directory.AllNodes directory.scan :=
  fun _ node_mem => isNode_of_mem_ranked (directory.ranked_perm.mem_iff.mpr node_mem)

theorem fileNames_scan (read : directory.entries = .ok entries) :
    fileNames directory.scan =
      (enumerated entries).filter fun name => (DeviceName.parse? name).isSome := by
  rw [fileNames, scan_eq read, List.filterMap_filterMap, ← List.filterMap_eq_filter]
  apply List.filterMap_congr
  intro name _
  cases parsed : DeviceName.parse? name with
  | none => simp [node?, parsed, Option.guard]
  | some said =>
      cases found : directory.node? ⟨name, true⟩ with
      | none => simp [node?, parsed] at found
      | some node =>
          simp [(node?_eq_some_iff.mp found).2.fileName?, parsed, Option.guard]

/-- Names of one rank stay in the order of the enumeration. -/
theorem filter_fileNames_ranked (read : directory.entries = .ok entries) (rank : List Nat) :
    ((fileNames directory.ranked).filter fun name =>
        (DeviceName.parse? name).map DeviceName.rank == rank) =
      (enumerated entries).filter fun name =>
        (DeviceName.parse? name).map DeviceName.rank == rank := by
  have stable : (directory.ranked.filter fun node => node.said.rank == rank) =
      directory.scan.filter fun node => node.said.rank == rank := by
    apply filter_mergeSort rankLe_trans rankLe_total
    intro node _ other _ node_rank other_rank
    have same_rank := (beq_iff_eq.mp node_rank).trans (beq_iff_eq.mp other_rank).symm
    exact rankLe_iff_noLater.mpr (Or.inl same_rank)
  rw [filter_fileNames (.of_ranked directory), stable, ← filter_fileNames (.of_scan directory),
    fileNames_scan read, List.filter_filter]
  apply List.filter_congr
  intro name _
  cases DeviceName.parse? name <;> simp

theorem pairwise_fileNames_ranked (directory : DeviceDirectory) :
    (fileNames directory.ranked).Pairwise fun name other =>
      ∀ said ∈ DeviceName.parse? name, ∀ other_said ∈ DeviceName.parse? other,
        said.NoLater other_said := by
  rw [fileNames, List.pairwise_filterMap]
  apply directory.sorted_ranked.imp_of_mem
  intro node other node_mem other_mem le name named other_name other_named said parsed other_said
    other_parsed
  rcases isNode_of_mem_ranked node_mem with ⟨own_name, is_node⟩
  rcases isNode_of_mem_ranked other_mem with ⟨other_own_name, is_other⟩
  rw [is_node.fileName?] at named
  rw [is_other.fileName?] at other_named
  cases named
  cases other_named
  rw [Option.mem_def, is_node.parsed] at parsed
  rw [Option.mem_def, is_other.parsed] at other_parsed
  cases parsed
  cases other_parsed
  exact rankLe_iff_noLater.mp le

theorem mem_enumerated_iff : name ∈ enumerated entries ↔ ⟨name, true⟩ ∈ entries := by
  rw [enumerated, List.mem_eraseDups, List.mem_map]
  constructor
  · rintro ⟨⟨_, device⟩, entry_mem, rfl⟩
    rcases List.mem_filter.mp entry_mem with ⟨entry_mem, is_device⟩
    cases (is_device : device = true)
    exact entry_mem
  · intro entry_mem
    exact ⟨_, List.mem_filter.mpr ⟨entry_mem, rfl⟩, rfl⟩

theorem mem_fileNames_ranked_iff (read : directory.entries = .ok entries) :
    name ∈ fileNames directory.ranked ↔
      ⟨name, true⟩ ∈ entries ∧ (DeviceName.parse? name).isSome = true := by
  have same_names : (fileNames directory.ranked).Perm (fileNames directory.scan) :=
    directory.ranked_perm.filterMap _
  rw [same_names.mem_iff, fileNames_scan read, List.mem_filter, mem_enumerated_iff]

end DeviceDirectory

namespace Host

open DeviceDirectory (enumerated fileNames)

/--
What a scan in the order of rank lists, where the directory can be read. Nothing is executed. The
listed paths are those of the names that occur as a character device and are names of tape device
nodes, each once, whether or not the node is denied. They stand in the order of rank, and names of
one rank in the order of the enumeration.
-/
theorem discover_rankAll_outcome (host : Host σ) (settings : DiscoverySettings) (world : World σ)
    {entries : List DeviceEntry} (policy : settings.policy = .rankAll)
    (read : (host.devices world.files).entries = .ok entries) :
    let directory := host.devices world.files
    let scanned := (host.discover settings).run world
    let inventory := scanned.1
    scanned.2 = world ∧
      (∃ names : List String,
        inventory.listed = names.map directory.root.join ∧
          names.Nodup ∧
          (∀ name, name ∈ names ↔
            ⟨name, true⟩ ∈ entries ∧ (DeviceName.parse? name).isSome = true) ∧
          (names.Pairwise fun name other =>
            ∀ said ∈ DeviceName.parse? name, ∀ other_said ∈ DeviceName.parse? other,
              said.NoLater other_said) ∧
          ∀ rank : List Nat,
            (names.filter fun name => (DeviceName.parse? name).map DeviceName.rank == rank) =
              (enumerated entries).filter fun name =>
                (DeviceName.parse? name).map DeviceName.rank == rank) ∧
      (inventory.listed.Pairwise fun path other => ¬path.Same other) ∧
      inventory.listedNodes.map DeviceNode.path = inventory.listed ∧
      ∀ node ∈ inventory.listedNodes,
        (node.accessible = false ↔ directory.probe node.path = .denied) := by
  intro directory scanned inventory
  have listed : inventory.listed = directory.ranked.map DeviceNode.path :=
    Discovery.listed_rankAll policy
  have nodes : inventory.listedNodes = directory.ranked := by
    rw [Discovery.listedNodes_discover, Discovery.applyPolicy_rankAll policy]
  have paths := DeviceDirectory.map_path_eq (.of_ranked directory)
  have apart : inventory.listed.Pairwise fun path other => ¬path.Same other := by
    rw [listed]
    exact List.pairwise_map.mpr directory.pairwise_ranked
  refine ⟨congrArg Prod.snd (Discovery.discover_rankAll policy), ?_, apart, ?_, ?_⟩
  · refine ⟨fileNames directory.ranked, listed.trans paths, ?_,
      fun _ => DeviceDirectory.mem_fileNames_ranked_iff read,
      directory.pairwise_fileNames_ranked, DeviceDirectory.filter_fileNames_ranked read⟩
    rw [listed, paths] at apart
    refine List.Nodup.of_map directory.root.join (apart.imp ?_)
    rintro path _ different rfl
    exact different (.refl _)
  · rw [nodes, listed]
  · intro node node_mem
    rw [nodes] at node_mem
    rcases DeviceDirectory.isNode_of_mem_ranked node_mem with ⟨_, is_node⟩
    exact is_node.accessible_iff

/-- A name that is repeated, a file of the name of a node, and two names of one rank. -/
theorem discover_rankAll_outcome_repeated :
    let entries : List DeviceEntry := [⟨"st0", false⟩, ⟨"st00", true⟩, ⟨"stdin", true⟩,
      ⟨"nst0", true⟩, ⟨"st0", true⟩, ⟨"st00", true⟩]
    let host := Host.scanning { DeviceDirectory.twoDrives with entries := .ok entries } .willing
    let scanned := (host.discover {}).run (.start ())
    scanned.2.executed = [] ∧
      ∃ names : List String, scanned.1.listed = names.map (FilePath.join ⟨"/dev"⟩) ∧
        names.Nodup ∧
        "nst0" ∈ names ∧
        "stdin" ∉ names ∧
        (names.filter fun name => (DeviceName.parse? name).map DeviceName.rank == [0, 0, 0, 0]) =
          ["st00", "st0"] := by
  intro entries host scanned
  rcases discover_rankAll_outcome host {} (.start ()) rfl rfl with
    ⟨unchanged, ⟨names, listed, distinct, mem_iff, _, in_order⟩, _⟩
  refine ⟨congrArg World.executed unchanged, names, listed, distinct, ?_, ?_, ?_⟩
  · exact (mem_iff "nst0").mpr ⟨by decide, by decide +kernel⟩
  · exact fun known => absurd ((mem_iff "stdin").mp known).2 (by decide +kernel)
  · exact (in_order [0, 0, 0, 0]).trans (by decide +kernel)

end Host

end TapeAdmin
