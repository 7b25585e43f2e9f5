import TapeAdmin.Device.Discovery
import TapeAdmin.Proofs.Device.Name

/-!
# What a scan of the directory finds

The nodes of a directory are the tape device nodes among its entries, each once, whatever the order
of the entries and however often one is repeated. A node says what its name says. In the order of
rank the first node is a rewinding one for the default mode as soon as there is such a node.
-/

namespace TapeAdmin

namespace DeviceNode

/-- Nodes with different paths. -/
def Apart (node other : DeviceNode) : Prop :=
  ¬node.path.Same other.path

theorem Apart.symm {node other : DeviceNode} (apart : Apart node other) : Apart other node :=
  fun same => apart same.symm

end DeviceNode

namespace DeviceDirectory

/-- A node as a directory has it under a name. -/
structure IsNode (directory : DeviceDirectory) (name : String) (node : DeviceNode) : Prop where
  parsed : DeviceName.parse? name = some ⟨node.drive, node.rewinding, node.mode⟩
  path_eq : node.path = directory.root.join name
  probed : node.accessible = (directory.probe node.path).isAccessible

/-- A node of a directory: a character device among its entries, with the name of a tape device
node. -/
def Holds (directory : DeviceDirectory) (node : DeviceNode) : Prop :=
  ∃ entries, directory.entries = .ok entries ∧
    ∃ entry ∈ entries, entry.isCharacterDevice = true ∧ directory.IsNode entry.name node

variable {directory : DeviceDirectory} {name : String} {node : DeviceNode}

theorem IsNode.fileName? (is_node : directory.IsNode name node) :
    node.path.fileName? = some name := by
  rw [is_node.path_eq]
  exact FilePath.fileName?_join (DeviceName.isPlainName_of_parse? is_node.parsed)

theorem IsNode.accessible_iff (is_node : directory.IsNode name node) :
    node.accessible = false ↔ directory.probe node.path = .denied := by
  rw [is_node.probed]
  cases directory.probe node.path <;> simp [ProbeOutcome.isAccessible]

/-- A node is determined by its path. -/
theorem IsNode.eq_of_same {other_name : String} {other : DeviceNode}
    (is_node : directory.IsNode name node) (is_other : directory.IsNode other_name other)
    (same : node.path.Same other.path) : node = other := by
  have plain := DeviceName.isPlainName_of_parse? is_node.parsed
  have other_plain := DeviceName.isPlainName_of_parse? is_other.parsed
  rw [is_node.path_eq, is_other.path_eq, FilePath.same_join_iff plain other_plain] at same
  subst same
  have path_eq : node.path = other.path := is_node.path_eq.trans is_other.path_eq.symm
  have accessible_eq : node.accessible = other.accessible := by
    rw [is_node.probed, is_other.probed, path_eq]
  have parsed_eq := is_node.parsed.symm.trans is_other.parsed
  simp only [Option.some.injEq, DeviceName.mk.injEq] at parsed_eq
  rcases parsed_eq with ⟨drive_eq, rewinding_eq, mode_eq⟩
  cases node
  cases other
  simp_all

/-- The nodes of the entries are the character devices with the name of a tape device node. -/
theorem node?_eq_some_iff {entry : DeviceEntry} :
    directory.node? entry = some node ↔
      entry.isCharacterDevice = true ∧ directory.IsNode entry.name node := by
  constructor
  · intro found
    rw [node?] at found
    split at found
    · next device =>
        rcases Option.map_eq_some_iff.mp found with ⟨parsed, read, rfl⟩
        exact ⟨device, read, rfl, rfl⟩
    · cases found
  · rintro ⟨device, is_node⟩
    cases node
    have path_eq := is_node.path_eq
    have probed := is_node.probed
    simp only at path_eq probed
    simp [node?, device, is_node.parsed, path_eq, probed]

/-! ### One node for each path -/

/-- What keeping the first node of each path does to the nodes kept before: they stay apart, nothing
is made up, and every path is still there. -/
theorem foldl_firstByPath (nodes : List DeviceNode) {kept : List DeviceNode}
    (apart : kept.Pairwise DeviceNode.Apart) :
    let result := nodes.foldl (fun kept node =>
      if kept.any fun other => other.path.same node.path then kept else kept ++ [node]) kept
    result.Pairwise DeviceNode.Apart ∧
      (∀ node ∈ result, node ∈ kept ++ nodes) ∧
      ∀ node ∈ kept ++ nodes, ∃ other ∈ result, other.path.Same node.path := by
  induction nodes generalizing kept with
  | nil => exact ⟨apart, by simp, fun node node_mem => ⟨node, by simpa using node_mem, .refl _⟩⟩
  | cons first rest ih =>
      simp only [List.foldl_cons]
      split
      · next seen =>
          rcases ih apart with ⟨result_apart, sound, complete⟩
          refine ⟨result_apart, ?_, ?_⟩
          · intro node node_mem
            rcases List.mem_append.mp (sound node node_mem) with node_mem | node_mem
            · exact List.mem_append_left _ node_mem
            · exact List.mem_append_right _ (List.mem_cons_of_mem _ node_mem)
          · intro node node_mem
            rcases List.mem_append.mp node_mem with node_mem | node_mem
            · exact complete node (List.mem_append_left _ node_mem)
            · rcases List.mem_cons.mp node_mem with rfl | node_mem
              · -- The path of a node that is dropped is still there: an earlier node has it.
                rcases List.any_eq_true.mp seen with ⟨earlier, earlier_mem, same⟩
                rcases complete earlier (List.mem_append_left _ earlier_mem) with
                  ⟨other, other_mem, other_same⟩
                exact ⟨other, other_mem, other_same.trans (FilePath.same_iff.mp same)⟩
              · exact complete node (List.mem_append_right _ node_mem)
      · next unseen =>
          have new : (kept ++ [first]).Pairwise DeviceNode.Apart := by
            rw [List.pairwise_append]
            refine ⟨apart, List.pairwise_singleton _ _, ?_⟩
            intro other other_mem last last_mem same
            rw [List.mem_singleton.mp last_mem] at same
            exact unseen (List.any_eq_true.mpr ⟨other, other_mem, FilePath.same_iff.mpr same⟩)
          simpa using ih new

theorem pairwise_firstByPath (nodes : List DeviceNode) :
    (firstByPath nodes).Pairwise DeviceNode.Apart :=
  (foldl_firstByPath nodes .nil).1

/-- Where a path determines the node, no node is lost by keeping the first of each path. -/
theorem mem_firstByPath {nodes : List DeviceNode}
    (determined : ∀ node ∈ nodes, ∀ other ∈ nodes, other.path.Same node.path → other = node) :
    node ∈ firstByPath nodes ↔ node ∈ nodes := by
  rcases foldl_firstByPath nodes .nil with ⟨_, sound, complete⟩
  constructor
  · exact sound node
  · intro node_mem
    rcases complete node node_mem with ⟨other, other_mem, same⟩
    rw [← determined node node_mem other (sound other other_mem) same]
    exact other_mem

theorem pairwise_scan (directory : DeviceDirectory) :
    directory.scan.Pairwise DeviceNode.Apart := by
  rw [scan]
  split
  · exact pairwise_firstByPath _
  · exact .nil

/-- A scan finds the nodes of the directory, and nothing else. -/
theorem mem_scan_iff : node ∈ directory.scan ↔ directory.Holds node := by
  rw [scan, Holds]
  split
  · next entries read =>
      have determined : ∀ node ∈ entries.filterMap directory.node?,
          ∀ other ∈ entries.filterMap directory.node?, other.path.Same node.path →
            other = node := by
        intro node node_mem other other_mem same
        rcases List.mem_filterMap.mp node_mem with ⟨entry, _, found⟩
        rcases List.mem_filterMap.mp other_mem with ⟨other_entry, _, other_found⟩
        exact (node?_eq_some_iff.mp other_found).2.eq_of_same (node?_eq_some_iff.mp found).2 same
      rw [mem_firstByPath determined, List.mem_filterMap]
      simp [read, node?_eq_some_iff]
  · next error read => simp [read]

/-! ### The order of rank -/

theorem rankLe_iff {node other : DeviceNode} :
    node.rankLe other = true ↔
      node.group < other.group ∨ node.group = other.group ∧
        (node.drive < other.drive ∨ node.drive = other.drive ∧
          node.mode.rank ≤ other.mode.rank) := by
  simp [DeviceNode.rankLe]

theorem ranked_perm (directory : DeviceDirectory) : directory.ranked.Perm directory.scan :=
  List.mergeSort_perm _ _

theorem pairwise_ranked (directory : DeviceDirectory) :
    directory.ranked.Pairwise DeviceNode.Apart :=
  (directory.ranked_perm.pairwise_iff DeviceNode.Apart.symm).mpr directory.pairwise_scan

/-- The nodes in the order of rank are those of the directory. -/
theorem mem_ranked_iff : node ∈ directory.ranked ↔ directory.Holds node :=
  directory.ranked_perm.mem_iff.trans mem_scan_iff

theorem isNode_of_mem_ranked (node_mem : node ∈ directory.ranked) :
    ∃ name, directory.IsNode name node := by
  rcases mem_ranked_iff.mp node_mem with ⟨_, _, entry, _, _, is_node⟩
  exact ⟨entry.name, is_node⟩

theorem rankLe_trans (node other third : DeviceNode) (first : node.rankLe other = true)
    (second : other.rankLe third = true) : node.rankLe third = true := by
  rw [rankLe_iff] at *
  omega

theorem rankLe_total (node other : DeviceNode) :
    (node.rankLe other || other.rankLe node) = true := by
  rw [Bool.or_eq_true, rankLe_iff, rankLe_iff]
  omega

theorem sorted_ranked (directory : DeviceDirectory) :
    directory.ranked.Pairwise fun node other => node.rankLe other = true :=
  List.pairwise_mergeSort rankLe_trans rankLe_total _

theorem group_eq_zero_iff : node.group = 0 ↔ (node.isBasic && node.rewinding) = true := by
  rw [DeviceNode.group]
  cases node.isBasic <;> cases node.rewinding <;> simp

/-- If there is a rewinding node for the default mode, the first node is one. -/
theorem head_of_ranked {first : DeviceNode} {rest : List DeviceNode}
    (ranked_eq : directory.ranked = first :: rest) (node_mem : node ∈ directory.ranked)
    (basic : (node.isBasic && node.rewinding) = true) :
    (first.isBasic && first.rewinding) = true := by
  have in_order := directory.sorted_ranked
  rw [ranked_eq] at node_mem in_order
  rcases List.mem_cons.mp node_mem with rfl | node_mem
  · exact basic
  · have first_le := List.rel_of_pairwise_cons in_order node_mem
    rw [rankLe_iff] at first_le
    rw [← group_eq_zero_iff] at *
    omega

/-- The nodes of two drives, one of them repeated and one without read permission, and an entry that
is no tape device node. -/
def twoDrives : DeviceDirectory where
  root := ⟨"/dev"⟩
  entries := .ok [⟨"st0", true⟩, ⟨"sda", true⟩, ⟨"st1", true⟩, ⟨"st0", true⟩, ⟨"nst0", true⟩]
  probe path := if path.text = "/dev/nst0" then .denied else .accessible

theorem ranked_twoDrives : twoDrives.ranked =
    [⟨⟨"/dev/st0"⟩, 0, true, .default, true⟩, ⟨⟨"/dev/st1"⟩, 1, true, .default, true⟩,
      ⟨⟨"/dev/nst0"⟩, 0, false, .default, false⟩] := by
  have found : twoDrives.scan =
      [⟨⟨"/dev/st0"⟩, 0, true, .default, true⟩, ⟨⟨"/dev/st1"⟩, 1, true, .default, true⟩,
        ⟨⟨"/dev/nst0"⟩, 0, false, .default, false⟩] := rfl
  rw [ranked, found]
  exact List.mergeSort_of_pairwise (by decide)

end DeviceDirectory

end TapeAdmin
