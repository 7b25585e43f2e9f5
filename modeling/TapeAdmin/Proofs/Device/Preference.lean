import TapeAdmin.Proofs.Device.Selection

/-!
# What is selected from any nodes

A selection can be made from any list of nodes, also from nodes whose names say something else than
their modes. The drive that is meant and the preferred kind leave some nodes of the list, which are
put into the order of their modes. Of these the first one of the wanted mode is taken, and failing
that one step after the other is tried: the default mode, a name without a mode letter, any node.
Each step can fail on its own, and `Chosen` has one case for each.
-/

namespace TapeAdmin

/-- The modes in their order. -/
def DensityMode.all : List DensityMode := [.default, .auto, .low, .medium]

namespace DeviceNode

/-- The nodes of one mode after those of the other, nodes of one mode in the order of the list. -/
def byMode (nodes : List DeviceNode) : List DeviceNode :=
  DensityMode.all.flatMap fun mode => nodes.filter fun node => node.mode == mode

/-- The first node of a list with a property. -/
structure IsFirst (property : DeviceNode → Prop) (nodes : List DeviceNode)
    (node : DeviceNode) : Prop where
  holds : property node
  place : ∃ before behind, nodes = before ++ node :: behind ∧ ∀ other ∈ before, ¬property other

/-- A node whose path has a name at its end, without the letter of a mode at the end of it. -/
def PlainlyNamed (node : DeviceNode) : Prop :=
  ∃ name, node.path.fileName? = some name ∧
    ∀ letter ∈ ['a', 'l', 'm'], name.toList.getLast? ≠ some letter

/-- The node of a list that is taken where a mode may be wanted. -/
inductive Chosen (nodes : List DeviceNode) (mode : Option String) (node : DeviceNode) : Prop where
  | wanted (first : IsFirst (fun node => mode = some node.mode.word) nodes node)
  | basic (unwanted : ∀ other ∈ nodes, mode ≠ some other.mode.word)
      (first : IsFirst (fun node => node.mode = .default) nodes node)
  | plain (unwanted : ∀ other ∈ nodes, mode ≠ some other.mode.word)
      (variants : ∀ other ∈ nodes, other.mode ≠ .default)
      (first : IsFirst PlainlyNamed nodes node)
  | front (unwanted : ∀ other ∈ nodes, mode ≠ some other.mode.word)
      (variants : ∀ other ∈ nodes, other.mode ≠ .default)
      (lettered : ∀ other ∈ nodes, ¬PlainlyNamed other)
      (first : nodes.head? = some node)

variable {nodes : List DeviceNode} {node : DeviceNode} {mode : Option String}

/-! ### The order of modes -/

theorem byMode_cons (least : ∀ other ∈ nodes, node.mode.rank ≤ other.mode.rank) :
    byMode (node :: nodes) = node :: byMode nodes := by
  have none_before (mode : DensityMode) (before : mode.rank < node.mode.rank) :
      (nodes.filter fun other => other.mode == mode) = [] := by
    rw [List.filter_eq_nil_iff]
    intro other other_mem same
    have rank_le := least other other_mem
    rw [beq_iff_eq.mp same] at rank_le
    omega
  cases own : node.mode with
  | default => simp [byMode, DensityMode.all, own]
  | auto =>
      have no_default := none_before .default (by rw [own]; decide)
      simp [byMode, DensityMode.all, own, no_default]
  | low =>
      have no_default := none_before .default (by rw [own]; decide)
      have no_auto := none_before .auto (by rw [own]; decide)
      simp [byMode, DensityMode.all, own, no_default, no_auto]
  | medium =>
      have no_default := none_before .default (by rw [own]; decide)
      have no_auto := none_before .auto (by rw [own]; decide)
      have no_low := none_before .low (by rw [own]; decide)
      simp [byMode, DensityMode.all, own, no_default, no_auto, no_low]

theorem byMode_of_sorted (in_order : nodes.Pairwise fun node other =>
    node.mode.rank ≤ other.mode.rank) : byMode nodes = nodes := by
  induction nodes with
  | nil => rfl
  | cons node nodes ih =>
      rcases List.pairwise_cons.mp in_order with ⟨least, later⟩
      rw [byMode_cons least, ih later]

/-- Sorting by mode keeps the order of the nodes of one mode. -/
theorem mergeSort_eq_byMode (nodes : List DeviceNode) : nodes.mergeSort modeLe = byMode nodes := by
  have in_order := (List.pairwise_mergeSort modeLe_trans modeLe_total nodes).imp modeLe_iff.mp
  rw [← byMode_of_sorted in_order, byMode, byMode]
  congr 1
  funext mode
  apply filter_mergeSort modeLe_trans modeLe_total
  intro node _ other _ node_mode other_mode
  have same_mode := (beq_iff_eq.mp node_mode).trans (beq_iff_eq.mp other_mode).symm
  exact modeLe_iff.mpr (Nat.le_of_eq (congrArg DensityMode.rank same_mode))

/-! ### The steps of the choice -/

theorem isFirst_iff {search : DeviceNode → Bool} {property : DeviceNode → Prop}
    (means : ∀ node, search node = true ↔ property node) :
    IsFirst property nodes node ↔ nodes.find? search = some node := by
  rw [List.find?_eq_some_iff_append]
  simp only [Bool.not_eq_true', ← Bool.not_eq_true, means]
  exact ⟨fun first => ⟨first.holds, first.place⟩, fun ⟨holds, place⟩ => ⟨holds, place⟩⟩

theorem isSome_ofLetter?_iff {letter : Char} :
    (DensityMode.ofLetter? letter).isSome = true ↔ letter ∈ ['a', 'l', 'm'] := by
  unfold DensityMode.ofLetter?
  split <;> simp_all

theorem hasPlainName_iff (node : DeviceNode) : node.hasPlainName = true ↔ node.PlainlyNamed := by
  rw [hasPlainName, PlainlyNamed]
  cases node.path.fileName? with
  | none => simp
  | some name =>
      simp only [Option.some.injEq, exists_eq_left', DeviceName.endsInModeLetter]
      cases name.toList.getLast? with
      | none => simp
      | some last =>
          rw [Bool.not_eq_true', ← Bool.not_eq_true, isSome_ofLetter?_iff]
          simp only [ne_eq, Option.some.injEq]
          constructor
          · rintro not_letter letter letter_mem rfl
            exact not_letter letter_mem
          · intro different last_mem
            exact different last last_mem rfl

theorem find?_eq_none_iff_forall {search : DeviceNode → Bool} {property : DeviceNode → Prop}
    (means : ∀ node, search node = true ↔ property node) :
    nodes.find? search = none ↔ ∀ other ∈ nodes, ¬property other := by
  simp only [List.find?_eq_none, means]

theorem wanted_iff (node : DeviceNode) :
    (mode == some node.mode.word) = true ↔ mode = some node.mode.word :=
  beq_iff_eq

theorem basic_iff (node : DeviceNode) : node.mode.isDefault = true ↔ node.mode = .default :=
  DensityMode.isDefault_iff

/-- The four searches of a choice, one after the other. -/
theorem choose?_eq (nodes : List DeviceNode) (mode : Option String) :
    choose? nodes mode =
      (nodes.find? fun node => mode == some node.mode.word).or
        ((nodes.find? fun node => node.mode.isDefault).or
          ((nodes.find? hasPlainName).or nodes.head?)) := by
  cases mode with
  | none =>
      have unwanted : (nodes.find? fun node => none == some node.mode.word) = none :=
        List.find?_eq_none.mpr (by simp)
      rw [unwanted, Option.none_or]
      simp [choose?, fallback?]
  | some wanted =>
      have same_search : (fun node : DeviceNode => some wanted == some node.mode.word) =
          fun node => node.mode.word == wanted := by
        funext node
        rw [Option.some_beq_some, BEq.comm]
      rw [same_search]
      simp [choose?, fallback?]

theorem choose?_of_chosen (chosen : Chosen nodes mode node) : choose? nodes mode = some node := by
  rw [choose?_eq]
  cases chosen with
  | wanted first => rw [(isFirst_iff wanted_iff).mp first, Option.some_or]
  | basic unwanted first =>
      rw [(find?_eq_none_iff_forall wanted_iff).mpr unwanted, Option.none_or,
        (isFirst_iff basic_iff).mp first, Option.some_or]
  | plain unwanted variants first =>
      rw [(find?_eq_none_iff_forall wanted_iff).mpr unwanted, Option.none_or,
        (find?_eq_none_iff_forall basic_iff).mpr variants, Option.none_or,
        (isFirst_iff hasPlainName_iff).mp first, Option.some_or]
  | front unwanted variants lettered first =>
      rw [(find?_eq_none_iff_forall wanted_iff).mpr unwanted, Option.none_or,
        (find?_eq_none_iff_forall basic_iff).mpr variants, Option.none_or,
        (find?_eq_none_iff_forall hasPlainName_iff).mpr lettered, Option.none_or, first]

theorem chosen_of_choose? (found : choose? nodes mode = some node) : Chosen nodes mode node := by
  rw [choose?_eq] at found
  cases wanted : nodes.find? fun node => mode == some node.mode.word with
  | some first =>
      rw [wanted, Option.some_or] at found
      cases found
      exact .wanted ((isFirst_iff wanted_iff).mpr wanted)
  | none =>
      have unwanted := (find?_eq_none_iff_forall wanted_iff).mp wanted
      rw [wanted, Option.none_or] at found
      cases basic : nodes.find? fun node => node.mode.isDefault with
      | some first =>
          rw [basic, Option.some_or] at found
          cases found
          exact .basic unwanted ((isFirst_iff basic_iff).mpr basic)
      | none =>
          have variants := (find?_eq_none_iff_forall basic_iff).mp basic
          rw [basic, Option.none_or] at found
          cases plain : nodes.find? hasPlainName with
          | some first =>
              rw [plain, Option.some_or] at found
              cases found
              exact .plain unwanted variants ((isFirst_iff hasPlainName_iff).mpr plain)
          | none =>
              have lettered := (find?_eq_none_iff_forall hasPlainName_iff).mp plain
              rw [plain, Option.none_or] at found
              exact .front unwanted variants lettered found

/-- What is chosen is the first node of the first of four searches that finds one. -/
theorem choose?_eq_some_iff : choose? nodes mode = some node ↔ Chosen nodes mode node :=
  ⟨chosen_of_choose?, choose?_of_chosen⟩

/-- Without a node for the default mode, a plain name counts whatever mode the node is for. -/
example :
    (choose? [⟨⟨"/dev/nst0a"⟩, 0, false, .auto, true⟩, ⟨⟨"/dev/nst0"⟩, 0, false, .low, true⟩]
      none).map path = some ⟨"/dev/nst0"⟩ := by
  decide +kernel

theorem IsFirst.mem {property : DeviceNode → Prop} (first : IsFirst property nodes node) :
    node ∈ nodes := by
  rcases first.place with ⟨before, behind, rfl, _⟩
  exact List.mem_append_right _ List.mem_cons_self

theorem Chosen.mem (chosen : Chosen nodes mode node) : node ∈ nodes := by
  cases chosen with
  | wanted first => exact first.mem
  | basic _ first => exact first.mem
  | plain _ _ first => exact first.mem
  | front _ _ _ first => exact List.mem_of_head? first

theorem mem_byMode : node ∈ byMode nodes ↔ node ∈ nodes := by
  rw [← mergeSort_eq_byMode, List.mem_mergeSort]

theorem byMode_eq_nil_iff : byMode nodes = [] ↔ nodes = [] := by
  simp only [List.eq_nil_iff_forall_not_mem, mem_byMode]

end DeviceNode

namespace Inventory

open DeviceNode (Chosen byMode)

/-- Why nothing is selected: there are no nodes, none of the drive that is asked for, or none of the
preferred kind of the drive that is meant. -/
inductive Refused (nodes : List DeviceNode) (number : Option Nat) (preference : RewindPreference) :
    SelectionFault → Prop where
  | noDrives (unasked : number = none) (empty : nodes = []) :
      Refused nodes number preference .noDrives
  | noSuchDrive {wanted : Nat} (asked : number = some wanted)
      (missing : ∀ node ∈ nodes, node.drive ≠ wanted) :
      Refused nodes number preference (.noSuchDrive wanted)
  | noNodes {wanted : Nat} (meant : wantedDrive? nodes number = some wanted)
      (present : ∃ node ∈ nodes, node.drive = wanted)
      (missing : ∀ node ∈ nodes, node.drive = wanted → node.rewinding ≠ preference.rewinds) :
      Refused nodes number preference (.noNodes wanted preference)

variable {nodes : List DeviceNode} {number : Option Nat} {preference : RewindPreference}
  {mode : Option String}

theorem wantedDrive?_eq_none_iff :
    wantedDrive? nodes number = none ↔ number = none ∧ nodes = [] := by
  cases number <;> simp [wantedDrive?]

theorem suitable_eq_nil_iff {wanted : Nat} (meant : wantedDrive? nodes number = some wanted) :
    suitable nodes number preference = [] ↔
      ∀ node ∈ nodes, node.drive = wanted → node.rewinding ≠ preference.rewinds := by
  rw [List.eq_nil_iff_forall_not_mem]
  simp only [mem_suitable, meant, Option.some.injEq, not_and, ne_eq]

theorem refused_of_select {denied : List FilePath} {fault : SelectionFault}
    (failed : (ofNodes nodes denied).select number preference mode = .error fault) :
    Refused nodes number preference fault := by
  rw [select_ofNodes, DeviceNode.mergeSort_eq_byMode] at failed
  cases meant : wantedDrive? nodes number with
  | none =>
      rcases wantedDrive?_eq_none_iff.mp meant with ⟨unasked, empty⟩
      simp only [meant, Except.error.injEq] at failed
      subst fault
      exact .noDrives unasked empty
  | some wanted =>
      simp only [meant] at failed
      split at failed
      · next listed =>
          split at failed
          · cases failed
          · next nothing =>
              cases failed
              rw [DeviceNode.choose?_eq_none_iff, DeviceNode.byMode_eq_nil_iff,
                suitable_eq_nil_iff meant] at nothing
              exact .noNodes meant (mem_driveNumbers.mp listed) nothing
      · next unlisted =>
          cases failed
          cases number with
          | none => exact absurd (mem_driveNumbers_of_unasked meant) unlisted
          | some number =>
              cases meant
              refine .noSuchDrive rfl ?_
              intro node node_mem own
              exact unlisted (mem_driveNumbers.mpr ⟨node, node_mem, own⟩)

theorem select_of_refused (denied : List FilePath) {fault : SelectionFault}
    (refused : Refused nodes number preference fault) :
    (ofNodes nodes denied).select number preference mode = .error fault := by
  rw [select_ofNodes, DeviceNode.mergeSort_eq_byMode]
  cases refused with
  | noDrives unasked empty => rw [wantedDrive?_eq_none_iff.mpr ⟨unasked, empty⟩]
  | @noSuchDrive wanted asked missing =>
      have unlisted : wanted ∉ driveNumbers nodes := by
        intro listed
        rcases mem_driveNumbers.mp listed with ⟨node, node_mem, own⟩
        exact missing node node_mem own
      subst asked
      exact if_neg unlisted
  | noNodes meant present missing =>
      have nothing := DeviceNode.byMode_eq_nil_iff.mpr ((suitable_eq_nil_iff meant).mpr missing)
      simp only [meant, if_pos (mem_driveNumbers.mpr present),
        DeviceNode.choose?_eq_none_iff.mpr nothing]

theorem chosen_of_select {denied : List FilePath} {path : FilePath}
    (selected : (ofNodes nodes denied).select number preference mode = .ok path) :
    ∃ node, Chosen (byMode (suitable nodes number preference)) mode node ∧ node.path = path := by
  rw [select_ofNodes, DeviceNode.mergeSort_eq_byMode] at selected
  split at selected
  · cases selected
  · split at selected
    · split at selected
      · next node chosen =>
          cases selected
          exact ⟨node, DeviceNode.choose?_eq_some_iff.mp chosen, rfl⟩
      · cases selected
    · cases selected

theorem select_of_chosen (denied : List FilePath) {node : DeviceNode}
    (chosen : Chosen (byMode (suitable nodes number preference)) mode node) :
    (ofNodes nodes denied).select number preference mode = .ok node.path := by
  rcases mem_suitable.mp (DeviceNode.mem_byMode.mp chosen.mem) with ⟨node_mem, meant, _⟩
  have listed := mem_driveNumbers.mpr ⟨node, node_mem, rfl⟩
  rw [select_ofNodes, DeviceNode.mergeSort_eq_byMode, ← meant]
  simp only [if_pos listed, DeviceNode.choose?_eq_some_iff.mpr chosen]

/-- A selection is refused exactly if there are no nodes, none of the drive that is asked for, or
none of the preferred kind of the drive that is meant. -/
theorem exists_refused_iff (nodes : List DeviceNode) (number : Option Nat)
    (preference : RewindPreference) :
    (∃ fault, Refused nodes number preference fault) ↔
      nodes = [] ∨ (∃ wanted, number = some wanted ∧ ∀ node ∈ nodes, node.drive ≠ wanted) ∨
        ∃ wanted, wantedDrive? nodes number = some wanted ∧
          ∀ node ∈ nodes, node.drive = wanted → node.rewinding ≠ preference.rewinds := by
  constructor
  · rintro ⟨fault, refused⟩
    cases refused with
    | noDrives _ empty => exact .inl empty
    | noSuchDrive asked missing => exact .inr (.inl ⟨_, asked, missing⟩)
    | noNodes meant _ missing => exact .inr (.inr ⟨_, meant, missing⟩)
  · rintro (empty | ⟨wanted, asked, missing⟩ | ⟨wanted, meant, missing⟩)
    · cases number with
      | none => exact ⟨_, .noDrives rfl empty⟩
      | some wanted => exact ⟨_, .noSuchDrive rfl (by simp [empty])⟩
    · exact ⟨_, .noSuchDrive asked missing⟩
    · by_cases listed : wanted ∈ driveNumbers nodes
      · exact ⟨_, .noNodes meant (mem_driveNumbers.mp listed) missing⟩
      · cases number with
        | none => exact absurd (mem_driveNumbers_of_unasked meant) listed
        | some number =>
            cases meant
            refine ⟨_, .noSuchDrive rfl ?_⟩
            intro node node_mem own
            exact listed (mem_driveNumbers.mpr ⟨node, node_mem, own⟩)

/--
What is selected from any nodes. It is the path of the node that is chosen among those of the drive
that is meant and of the preferred kind, put into the order of their modes. Nothing is selected if
there are no nodes, if none is of the drive that is asked for, or if the drive that is meant, the
least one unless one is asked for, has none of the preferred kind; the fault says which.
-/
theorem select_ofNodes_outcome (nodes : List DeviceNode) (denied : List FilePath)
    (number : Option Nat) (preference : RewindPreference) (mode : Option String) :
    let result := (ofNodes nodes denied).select number preference mode
    (∀ path, result = .ok path ↔
        ∃ node, Chosen (byMode (suitable nodes number preference)) mode node ∧
          node.path = path) ∧
      (∀ fault, result = .error fault ↔ Refused nodes number preference fault) ∧
      ((∃ fault, result = .error fault) ↔
        nodes = [] ∨ (∃ wanted, number = some wanted ∧ ∀ node ∈ nodes, node.drive ≠ wanted) ∨
          ∃ wanted, wantedDrive? nodes number = some wanted ∧
            ∀ node ∈ nodes, node.drive = wanted → node.rewinding ≠ preference.rewinds) := by
  intro result
  have refused_iff (fault : SelectionFault) :
      result = .error fault ↔ Refused nodes number preference fault :=
    ⟨refused_of_select, select_of_refused denied⟩
  refine ⟨?_, refused_iff, ?_⟩
  · intro path
    constructor
    · exact chosen_of_select
    · rintro ⟨node, chosen, rfl⟩
      exact select_of_chosen denied chosen
  · rw [← exists_refused_iff]
    exact exists_congr refused_iff

end Inventory

end TapeAdmin
