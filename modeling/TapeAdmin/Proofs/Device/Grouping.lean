import Mathlib.Data.List.Pairwise
import Mathlib.Data.List.Perm.Basic
import TapeAdmin.Proofs.Device.Scan

/-!
# Nodes by drive

An inventory shows the same nodes twice: as a list of paths, and by drive. Sorting the nodes into
drives loses none and repeats none, and nodes of one mode keep their order. As long as no two nodes
have the same path, the nodes can be put back into the order of the list.
-/

namespace TapeAdmin

/-- Nodes that are apart are determined by their paths. -/
theorem DeviceNode.eq_of_same {nodes : List DeviceNode} (apart : nodes.Pairwise Apart)
    {node other : DeviceNode} (node_mem : node ∈ nodes) (other_mem : other ∈ nodes)
    (same : node.path.Same other.path) : node = other := by
  have symmetric : Std.Symm Apart := ⟨fun _ _ => Apart.symm⟩
  by_contra different
  exact apart.forall node_mem other_mem different same

/-- Members of a list that are tied keep their order when the list is sorted. -/
theorem filter_mergeSort {α : Type} {le : α → α → Bool}
    (le_trans : ∀ first second third, le first second = true → le second third = true →
      le first third = true)
    (le_total : ∀ first second, (le first second || le second first) = true)
    {keep : α → Bool} {items : List α}
    (tied : ∀ first ∈ items, ∀ second ∈ items, keep first = true → keep second = true →
      le first second = true) :
    (items.mergeSort le).filter keep = items.filter keep := by
  have in_order : (items.filter keep).Pairwise fun first second => le first second = true := by
    apply List.pairwise_of_forall_mem_list
    intro first first_mem second second_mem
    rw [List.mem_filter] at first_mem second_mem
    exact tied first first_mem.1 second second_mem.1 first_mem.2 second_mem.2
  -- Sorting is stable: members that are in order already stay a sublist.
  have kept : (items.filter keep).Sublist (items.mergeSort le) :=
    List.sublist_mergeSort le_trans le_total in_order List.filter_sublist
  have kept := kept.filter keep
  simp only [List.filter_filter, Bool.and_self] at kept
  exact (kept.eq_of_length ((List.mergeSort_perm items le).filter keep).length_eq.symm).symm

/-! ### Drive numbers -/

theorem pairwise_eraseDups {numbers : List Nat} (ordered : numbers.Pairwise (· ≤ ·)) :
    numbers.eraseDups.Pairwise (· < ·) := by
  match numbers with
  | [] => simp
  | number :: rest =>
      rw [List.eraseDups_cons, List.pairwise_cons]
      rcases List.pairwise_cons.mp ordered with ⟨first_le, rest_ordered⟩
      refine ⟨?_, pairwise_eraseDups (rest_ordered.filter _)⟩
      intro other other_mem
      rw [List.mem_eraseDups, List.mem_filter] at other_mem
      have le := first_le other other_mem.1
      have ne : other ≠ number := by simpa using other_mem.2
      omega
termination_by numbers.length
decreasing_by exact Nat.lt_succ_of_le (List.length_filter_le _ _)

namespace Inventory

theorem mem_driveNumbers {nodes : List DeviceNode} {number : Nat} :
    number ∈ driveNumbers nodes ↔ ∃ node ∈ nodes, node.drive = number := by
  rw [driveNumbers, List.mem_eraseDups, List.mem_mergeSort, List.mem_map]

theorem pairwise_driveNumbers (nodes : List DeviceNode) :
    (driveNumbers nodes).Pairwise (· < ·) := by
  have ordered : ((nodes.map DeviceNode.drive).mergeSort (· ≤ ·)).Pairwise
      fun number other => decide (number ≤ other) = true := by
    apply List.pairwise_mergeSort
    · simp only [decide_eq_true_eq]
      omega
    · simp only [Bool.or_eq_true, decide_eq_true_eq]
      omega
  simp only [decide_eq_true_eq] at ordered
  exact pairwise_eraseDups ordered

/-- The first drive number is the least one. -/
theorem head?_driveNumbers (nodes : List DeviceNode) :
    (driveNumbers nodes).head? = (nodes.map DeviceNode.drive).min? := by
  cases least : (nodes.map DeviceNode.drive).min? with
  | none =>
      rw [List.min?_eq_none_iff, List.map_eq_nil_iff] at least
      subst least
      simp [driveNumbers]
  | some number =>
      rw [List.min?_eq_some_iff] at least
      rcases least with ⟨number_mem, number_le⟩
      have ordered := pairwise_driveNumbers nodes
      have listed : number ∈ driveNumbers nodes :=
        mem_driveNumbers.mpr (List.mem_map.mp number_mem)
      cases numbers : driveNumbers nodes with
      | nil => simp [numbers] at listed
      | cons first rest =>
          rw [numbers] at ordered listed
          have first_mem : first ∈ nodes.map DeviceNode.drive := by
            rw [List.mem_map]
            exact mem_driveNumbers.mp (numbers ▸ List.mem_cons_self)
          have le := number_le first first_mem
          rcases List.mem_cons.mp listed with rfl | number_mem
          · rfl
          · have lt := List.rel_of_pairwise_cons ordered number_mem
            omega

end Inventory

/-! ### The nodes of one drive -/

/-- Whether nodes of the preferred kind rewind. -/
def RewindPreference.rewinds : RewindPreference → Bool
  | .rewinding => true
  | .nonRewinding => false

namespace DeviceNode

theorem modeLe_iff {node other : DeviceNode} :
    node.modeLe other = true ↔ node.mode.rank ≤ other.mode.rank := by
  simp [modeLe]

theorem modeLe_trans (node other third : DeviceNode) (first : node.modeLe other = true)
    (second : other.modeLe third = true) : node.modeLe third = true := by
  rw [modeLe_iff] at *
  omega

theorem modeLe_total (node other : DeviceNode) :
    (node.modeLe other || other.modeLe node) = true := by
  rw [Bool.or_eq_true, modeLe_iff, modeLe_iff]
  omega

end DeviceNode

namespace Drive

/-- All nodes of a drive, the rewinding ones first. -/
def allNodes (drive : Drive) : List DeviceNode :=
  drive.rewinding ++ drive.nonRewinding

/-- The nodes of one drive and one kind are those of a list, sorted by mode. -/
theorem nodes_ofNodes (number : Nat) (nodes : List DeviceNode) (preference : RewindPreference) :
    (ofNodes number nodes).nodes preference =
      (nodes.filter fun node => node.drive == number &&
        node.rewinding == preference.rewinds).mergeSort DeviceNode.modeLe := by
  cases preference <;>
    simp [Drive.nodes, ofNodes, List.filter_filter, Bool.and_comm, RewindPreference.rewinds]

theorem mem_nodes_ofNodes {number : Nat} {nodes : List DeviceNode}
    {preference : RewindPreference} {node : DeviceNode} :
    node ∈ (ofNodes number nodes).nodes preference ↔
      node ∈ nodes ∧ node.drive = number ∧ node.rewinding = preference.rewinds := by
  rw [nodes_ofNodes, List.mem_mergeSort, List.mem_filter, Bool.and_eq_true, beq_iff_eq, beq_iff_eq]

theorem pairwise_nodes_ofNodes (number : Nat) (nodes : List DeviceNode)
    (preference : RewindPreference) :
    ((ofNodes number nodes).nodes preference).Pairwise
      fun node other => node.mode.rank ≤ other.mode.rank := by
  rw [nodes_ofNodes]
  exact (List.pairwise_mergeSort DeviceNode.modeLe_trans DeviceNode.modeLe_total _).imp
    DeviceNode.modeLe_iff.mp

theorem allNodes_ofNodes_perm (number : Nat) (nodes : List DeviceNode) :
    (ofNodes number nodes).allNodes.Perm (nodes.filter fun node => node.drive == number) :=
  ((List.mergeSort_perm _ _).append (List.mergeSort_perm _ _)).trans (List.filter_append_perm _ _)

end Drive

/-! ### All nodes -/

namespace Inventory

/-- The nodes of all drives, drive by drive. -/
def driveNodes (inventory : Inventory) : List DeviceNode :=
  inventory.drives.flatMap Drive.allNodes

/-- The nodes of an inventory in the order in which their paths are listed. -/
def listedNodes (inventory : Inventory) : List DeviceNode :=
  inventory.listed.filterMap fun path =>
    inventory.driveNodes.find? fun node => node.path.same path

theorem flatMap_filter_drive_perm (nodes : List DeviceNode) {numbers : List Nat}
    (distinct : numbers.Nodup) :
    (numbers.flatMap fun number => nodes.filter fun node => node.drive == number).Perm
      (nodes.filter fun node => numbers.contains node.drive) := by
  induction numbers with
  | nil => simp
  | cons number rest ih =>
      rcases List.nodup_cons.mp distinct with ⟨new, rest_distinct⟩
      have own : (nodes.filter fun node => (number :: rest).contains node.drive).filter
          (fun node => node.drive == number) = nodes.filter fun node => node.drive == number := by
        rw [List.filter_filter]
        apply List.filter_congr
        intro node _
        by_cases equal : node.drive = number <;> simp [equal]
      have others : (nodes.filter fun node => (number :: rest).contains node.drive).filter
          (fun node => !(node.drive == number)) =
            nodes.filter fun node => rest.contains node.drive := by
        rw [List.filter_filter]
        apply List.filter_congr
        intro node _
        by_cases equal : node.drive = number <;> simp [equal, new]
      have parts := List.filter_append_perm (fun node => node.drive == number)
        (nodes.filter fun node => (number :: rest).contains node.drive)
      rw [own, others] at parts
      rw [List.flatMap_cons]
      exact ((ih rest_distinct).append_left _).trans parts

variable {nodes : List DeviceNode} {denied : List FilePath}

/-- Sorting nodes into drives loses none and repeats none. -/
theorem driveNodes_ofNodes_perm (nodes : List DeviceNode) (denied : List FilePath) :
    (ofNodes nodes denied).driveNodes.Perm nodes := by
  have distinct : (driveNumbers nodes).Nodup := (pairwise_driveNumbers nodes).imp Nat.ne_of_lt
  have all : (nodes.filter fun node => (driveNumbers nodes).contains node.drive) = nodes := by
    rw [List.filter_eq_self]
    intro node node_mem
    rw [List.contains_iff_mem]
    exact mem_driveNumbers.mpr ⟨node, node_mem, rfl⟩
  have parts := flatMap_filter_drive_perm nodes distinct
  rw [all] at parts
  rw [driveNodes, ofNodes, List.flatMap_map]
  have same_parts := List.Perm.flatMap_left (driveNumbers nodes)
    fun number _ => Drive.allNodes_ofNodes_perm number nodes
  exact same_parts.trans parts

theorem mem_drives_ofNodes {drive : Drive} :
    drive ∈ (ofNodes nodes denied).drives ↔
      ∃ node ∈ nodes, Drive.ofNodes node.drive nodes = drive := by
  simp only [ofNodes, List.mem_map, mem_driveNumbers]
  constructor
  · rintro ⟨_, ⟨node, node_mem, rfl⟩, rfl⟩
    exact ⟨node, node_mem, rfl⟩
  · rintro ⟨node, node_mem, rfl⟩
    exact ⟨_, ⟨node, node_mem, rfl⟩, rfl⟩

/-- Nodes that are apart can be told from the drives and the listed paths. -/
theorem listedNodes_ofNodes (apart : nodes.Pairwise DeviceNode.Apart) :
    (ofNodes nodes denied).listedNodes = nodes := by
  have perm := driveNodes_ofNodes_perm nodes denied
  have found : ∀ node ∈ nodes, (ofNodes nodes denied).driveNodes.find?
      (fun other => other.path.same node.path) = some node := by
    intro node node_mem
    cases search : (ofNodes nodes denied).driveNodes.find?
        (fun other => other.path.same node.path) with
    | none =>
        have missing := List.find?_eq_none.mp search node (perm.mem_iff.mpr node_mem)
        exact absurd (FilePath.same_iff.mpr (.refl _)) missing
    | some other =>
        have same : other.path.Same node.path := by simpa using List.find?_some search
        have other_mem := perm.mem_iff.mp (List.mem_of_find?_eq_some search)
        rw [DeviceNode.eq_of_same apart other_mem node_mem same]
  rw [listedNodes]
  change (nodes.map DeviceNode.path).filterMap _ = nodes
  rw [List.filterMap_map]
  exact (List.filterMap_congr found).trans List.filterMap_some

end Inventory

end TapeAdmin
