import TapeAdmin.Device.Selection
import TapeAdmin.Proofs.Device.Grouping

/-!
# Which node is selected

A selection goes by drive, by kind and by mode. On nodes whose names say no more than their modes it
is the first node of the wanted mode in the order in which the nodes are listed, and failing that
the first one of the least mode: sorting nodes by mode keeps the order of those of one mode, and a
search by name finds what the search by mode has found before.
-/

namespace TapeAdmin

theorem DensityMode.rank_eq_zero_iff {mode : DensityMode} :
    mode.rank = 0 ↔ mode.isDefault = true := by
  cases mode <;> simp [rank]

namespace DeviceNode

/-- The first node of the wanted mode, else the first node of the least mode. -/
def preferred? (nodes : List DeviceNode) (mode : Option String) : Option DeviceNode :=
  (nodes.find? fun node => some node.mode.word == mode) <|>
    nodes.find? fun node => nodes.all node.modeLe

variable {nodes : List DeviceNode}

/-- The first of the nodes sorted by mode is the first node of the least mode. -/
theorem head?_mergeSort (nodes : List DeviceNode) :
    (nodes.mergeSort modeLe).head? = nodes.find? fun node => nodes.all node.modeLe := by
  have stable : (nodes.mergeSort modeLe).filter (fun node => nodes.all node.modeLe) =
      nodes.filter fun node => nodes.all node.modeLe := by
    apply filter_mergeSort modeLe_trans modeLe_total
    intro node _ other other_mem least _
    exact List.all_eq_true.mp least other other_mem
  rw [← List.head?_filter, ← stable, List.head?_filter]
  have in_order := List.pairwise_mergeSort modeLe_trans modeLe_total nodes
  cases sorted : nodes.mergeSort modeLe with
  | nil => rfl
  | cons first rest =>
      rw [sorted] at in_order
      have least : nodes.all first.modeLe = true := by
        rw [List.all_eq_true]
        intro other other_mem
        rw [← (List.mergeSort_perm nodes modeLe).mem_iff, sorted] at other_mem
        rcases List.mem_cons.mp other_mem with rfl | other_mem
        · exact modeLe_iff.mpr (Nat.le_refl _)
        · exact List.rel_of_pairwise_cons in_order other_mem
      rw [List.head?_cons, List.find?_cons, least]

/-- The name of a node is plain if its mode is the default one. -/
theorem hasPlainName_eq {node : DeviceNode} {name : String}
    (named : node.path.fileName? = some name)
    (parsed : DeviceName.parse? name = some ⟨node.drive, node.rewinding, node.mode⟩) :
    node.hasPlainName = node.isBasic := by
  rw [hasPlainName, named]
  simp only [DeviceName.endsInModeLetter_of_parse? parsed, Bool.not_not]
  rfl

/-- Where names say no more than modes, looking for a plain name finds what looking for the default
mode finds. -/
theorem find?_hasPlainName (named : ∀ node ∈ nodes, node.hasPlainName = node.isBasic) :
    nodes.find? hasPlainName = nodes.find? isBasic := by
  rw [← List.head?_filter, ← List.head?_filter, List.filter_congr named]

theorem fallback?_eq (named : ∀ node ∈ nodes, node.hasPlainName = node.isBasic) :
    fallback? nodes = (nodes.find? isBasic <|> nodes.head?) := by
  rw [fallback?, find?_hasPlainName named]
  change (nodes.find? isBasic <|> nodes.find? isBasic <|> nodes.head?) = _
  cases nodes.find? isBasic <;> simp

/-- In nodes sorted by mode, a node for the default mode is not behind the others. -/
theorem find?_isBasic_orElse_head? (in_order : nodes.Pairwise fun node other =>
    node.mode.rank ≤ other.mode.rank) :
    (nodes.find? isBasic <|> nodes.head?) = nodes.head? := by
  cases nodes with
  | nil => rfl
  | cons first rest =>
      cases basic : first.isBasic with
      | true => simp [basic]
      | false =>
          have none_basic : ∀ other ∈ rest, ¬other.isBasic = true := by
            intro other other_mem
            have first_le := List.rel_of_pairwise_cons in_order other_mem
            rw [← Bool.not_eq_true] at basic
            rw [isBasic, ← DensityMode.rank_eq_zero_iff] at *
            omega
          simp [basic, List.find?_eq_none.mpr none_basic]

/-- Choosing from nodes sorted by mode takes the first node of the wanted mode, else the first node
of the least mode. -/
theorem choose?_mergeSort (named : ∀ node ∈ nodes, node.hasPlainName = node.isBasic)
    (mode : Option String) : choose? (nodes.mergeSort modeLe) mode = preferred? nodes mode := by
  have sorted_named : ∀ node ∈ nodes.mergeSort modeLe, node.hasPlainName = node.isBasic :=
    fun node node_mem => named node (List.mem_mergeSort.mp node_mem)
  have in_order := (List.pairwise_mergeSort modeLe_trans modeLe_total nodes).imp modeLe_iff.mp
  have fallback : fallback? (nodes.mergeSort modeLe) =
      nodes.find? fun node => nodes.all node.modeLe := by
    rw [fallback?_eq sorted_named, find?_isBasic_orElse_head? in_order, head?_mergeSort]
  cases mode with
  | none =>
      have unwanted : (nodes.find? fun node => some node.mode.word == none) = none :=
        List.find?_eq_none.mpr (by simp)
      rw [choose?, preferred?, unwanted, fallback]
      rfl
  | some wanted =>
      -- Nodes of one mode are tied, so sorting keeps their order.
      have stable : (nodes.mergeSort modeLe).filter (fun node => node.mode.word == wanted) =
          nodes.filter fun node => node.mode.word == wanted := by
        apply filter_mergeSort modeLe_trans modeLe_total
        intro node _ other _ node_wanted other_wanted
        rw [beq_iff_eq] at node_wanted other_wanted
        have same_mode := DensityMode.word_injective (node_wanted.trans other_wanted.symm)
        exact modeLe_iff.mpr (Nat.le_of_eq (by rw [same_mode]))
      have first_wanted : (nodes.mergeSort modeLe).find? (fun node => node.mode.word == wanted) =
          nodes.find? fun node => node.mode.word == wanted := by
        rw [← List.head?_filter, stable, List.head?_filter]
      simp [choose?, preferred?, fallback, first_wanted]

theorem preferred?_eq_none_iff {mode : Option String} :
    preferred? nodes mode = none ↔ nodes = [] := by
  constructor
  · intro missing
    rw [preferred?, ← head?_mergeSort] at missing
    cases sorted : nodes.mergeSort modeLe with
    | nil => simpa [sorted] using (List.mergeSort_perm nodes modeLe).length_eq.symm
    | cons first rest =>
        rw [sorted] at missing
        cases search : nodes.find? fun node => some node.mode.word == mode <;>
          simp [search] at missing
  · rintro rfl
    simp [preferred?]

theorem mem_of_preferred? {mode : Option String} {node : DeviceNode}
    (found : preferred? nodes mode = some node) : node ∈ nodes := by
  rw [preferred?] at found
  cases search : nodes.find? fun node => some node.mode.word == mode with
  | none => exact List.mem_of_find?_eq_some (by simpa [search] using found)
  | some _ =>
      rw [search] at found
      cases found
      exact List.mem_of_find?_eq_some search

end DeviceNode

namespace Inventory

variable {nodes : List DeviceNode} {denied : List FilePath} {number : Option Nat}

/-- The number of the drive that is meant: the one asked for, or the least of a list of nodes. -/
def wantedDrive? (nodes : List DeviceNode) (number : Option Nat) : Option Nat :=
  number <|> (nodes.map DeviceNode.drive).min?

/-- The nodes of the drive that is meant, of the preferred kind. -/
def suitable (nodes : List DeviceNode) (number : Option Nat) (preference : RewindPreference) :
    List DeviceNode :=
  nodes.filter fun node => some node.drive == wantedDrive? nodes number &&
    node.rewinding == preference.rewinds

theorem mem_suitable {preference : RewindPreference} {node : DeviceNode} :
    node ∈ suitable nodes number preference ↔ node ∈ nodes ∧
      some node.drive = wantedDrive? nodes number ∧ node.rewinding = preference.rewinds := by
  rw [suitable, List.mem_filter, Bool.and_eq_true, beq_iff_eq, beq_iff_eq]

theorem drive?_ofNodes (number : Nat) :
    (ofNodes nodes denied).drive? number =
      if number ∈ driveNumbers nodes then some (Drive.ofNodes number nodes) else none := by
  rw [drive?, ofNodes, List.find?_map]
  change ((driveNumbers nodes).find? fun other => other == number).map _ = _
  split
  · next listed =>
      cases found : (driveNumbers nodes).find? fun other => other == number with
      | none => exact absurd (List.find?_eq_none.mp found number listed) (by simp)
      | some other =>
          have same : other = number := by simpa using List.find?_some found
          rw [same]
          rfl
  · next missing =>
      have none_found : ((driveNumbers nodes).find? fun other => other == number) = none := by
        rw [List.find?_eq_none]
        intro other other_mem
        rw [beq_iff_eq]
        rintro rfl
        exact missing other_mem
      rw [none_found]
      rfl

theorem head?_drives_ofNodes :
    (ofNodes nodes denied).drives.head? =
      (wantedDrive? nodes none).map fun number => Drive.ofNodes number nodes := by
  rw [ofNodes, List.head?_map, head?_driveNumbers]
  rfl

/-- A drive that is meant without being asked for has a node. -/
theorem mem_driveNumbers_of_unasked {wanted : Nat} (meant : wantedDrive? nodes none = some wanted) :
    wanted ∈ driveNumbers nodes :=
  List.mem_of_head? ((head?_driveNumbers nodes).trans meant)

/-- The drive that is meant is found if it has a node. -/
theorem resolve_ofNodes (nodes : List DeviceNode) (denied : List FilePath)
    (number : Option Nat) :
    (ofNodes nodes denied).resolve number =
      match wantedDrive? nodes number with
      | none => .error .noDrives
      | some wanted =>
        if wanted ∈ driveNumbers nodes then .ok (Drive.ofNodes wanted nodes)
        else .error (.noSuchDrive wanted) := by
  cases number with
  | some number =>
      change _ = if number ∈ driveNumbers nodes then _ else _
      rw [resolve, drive?_ofNodes]
      by_cases listed : number ∈ driveNumbers nodes
      · simp only [if_pos listed]
      · simp only [if_neg listed]
  | none =>
      rw [resolve, head?_drives_ofNodes]
      cases meant : wantedDrive? nodes none with
      | none => rfl
      | some wanted =>
          simp only [Option.map_some, if_pos (mem_driveNumbers_of_unasked meant)]

theorem suitable_eq_nil {preference : RewindPreference}
    (none_meant : ∀ node ∈ nodes, some node.drive ≠ wantedDrive? nodes number) :
    suitable nodes number preference = [] := by
  rw [List.eq_nil_iff_forall_not_mem]
  intro node suits
  rcases mem_suitable.mp suits with ⟨node_mem, meant, _⟩
  exact none_meant node node_mem meant

theorem nodes_ofNodes_of_meant {wanted : Nat} (meant : wantedDrive? nodes number = some wanted)
    (preference : RewindPreference) :
    (Drive.ofNodes wanted nodes).nodes preference =
      (suitable nodes number preference).mergeSort DeviceNode.modeLe := by
  rw [Drive.nodes_ofNodes, suitable, meant]
  congr 1

/-- A selection chooses from the nodes of the drive that is meant and of the preferred kind. -/
theorem select_ofNodes (nodes : List DeviceNode) (denied : List FilePath) (number : Option Nat)
    (preference : RewindPreference) (mode : Option String) :
    (ofNodes nodes denied).select number preference mode =
      match wantedDrive? nodes number with
      | none => .error .noDrives
      | some wanted =>
        if wanted ∈ driveNumbers nodes then
          match DeviceNode.choose?
              ((suitable nodes number preference).mergeSort DeviceNode.modeLe) mode with
          | some node => .ok node.path
          | none => .error (.noNodes wanted preference)
        else .error (.noSuchDrive wanted) := by
  rw [select, resolve_ofNodes]
  cases meant : wantedDrive? nodes number with
  | none => rfl
  | some wanted =>
      dsimp only
      split
      · rw [← nodes_ofNodes_of_meant meant]
        rfl
      · rfl

/-- What the wishes of the operator lead to: the preferred one of the suitable nodes. -/
theorem select_ofNodes_of_preferred (named : ∀ node ∈ nodes, node.hasPlainName = node.isBasic)
    (denied : List FilePath) {preference : RewindPreference} {mode : Option String}
    {node : DeviceNode}
    (preferred : DeviceNode.preferred? (suitable nodes number preference) mode = some node) :
    (ofNodes nodes denied).select number preference mode = .ok node.path := by
  rcases mem_suitable.mp (DeviceNode.mem_of_preferred? preferred) with ⟨node_mem, meant, _⟩
  have listed := mem_driveNumbers.mpr ⟨node, node_mem, rfl⟩
  have suitable_named : ∀ node ∈ suitable nodes number preference,
      node.hasPlainName = node.isBasic :=
    fun node node_mem => named node (mem_suitable.mp node_mem).1
  rw [select_ofNodes, ← meant]
  simp only [if_pos listed, DeviceNode.choose?_mergeSort suitable_named, preferred]

/-- Without a suitable node nothing is chosen. -/
theorem select_ofNodes_of_none (denied : List FilePath) {preference : RewindPreference}
    (mode : Option String)
    (none_suitable : suitable nodes number preference = []) :
    ∃ fault, (ofNodes nodes denied).select number preference mode = .error fault := by
  have nothing : DeviceNode.choose?
      ((suitable nodes number preference).mergeSort DeviceNode.modeLe) mode = none := by
    rw [none_suitable, List.mergeSort_nil]
    exact DeviceNode.choose?_eq_none_iff.mpr rfl
  rw [select_ofNodes]
  simp only [nothing]
  split
  · exact ⟨_, rfl⟩
  · split
    · exact ⟨_, rfl⟩
    · exact ⟨_, rfl⟩

end Inventory

end TapeAdmin
