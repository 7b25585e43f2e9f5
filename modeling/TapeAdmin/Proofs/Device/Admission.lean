import TapeAdmin.Proofs.Device.Grouping
import TapeAdmin.Proofs.Host.Sequence

/-!
# Which nodes are listed

Under either policy the nodes that a scan lists are those in the order of rank, or some of them:
none is made up, none is repeated, and only nodes with read permission are left out. Where nodes
are asked for their status, the listing is a refinement of the one in the order of rank: one node
comes first without being asked, and of the others exactly those are left out that are asked and do
not answer.
-/

namespace TapeAdmin

variable {σ : Type}

namespace DeviceDirectory

/-- Nodes that are listed out of those of a directory: some are, unless there are none, and what is
left out has read permission. -/
structure Lists (directory : DeviceDirectory) (nodes : List DeviceNode) : Prop where
  parts : ∃ dropped, (nodes ++ dropped).Perm directory.ranked ∧
    ∀ node ∈ dropped, node.accessible = true
  nonempty : nodes = [] → directory.ranked = []

namespace Lists

variable {directory : DeviceDirectory} {nodes : List DeviceNode}

theorem ranked (directory : DeviceDirectory) : directory.Lists directory.ranked :=
  ⟨⟨[], by simp, by simp⟩, id⟩

theorem mem_ranked (lists : directory.Lists nodes) {node : DeviceNode} (node_mem : node ∈ nodes) :
    node ∈ directory.ranked := by
  rcases lists.parts with ⟨dropped, parts, _⟩
  exact parts.mem_iff.mp (List.mem_append_left _ node_mem)

theorem apart (lists : directory.Lists nodes) : nodes.Pairwise DeviceNode.Apart := by
  rcases lists.parts with ⟨dropped, parts, _⟩
  have all_apart := (parts.pairwise_iff DeviceNode.Apart.symm).mpr directory.pairwise_ranked
  exact (List.pairwise_append.mp all_apart).1

/-- Every node without read permission is listed. -/
theorem mem_of_denied (lists : directory.Lists nodes) {node : DeviceNode}
    (node_mem : node ∈ directory.ranked) (denied : node.accessible = false) : node ∈ nodes := by
  rcases lists.parts with ⟨dropped, parts, accessible⟩
  rcases List.mem_append.mp (parts.mem_iff.mpr node_mem) with node_mem | node_mem
  · exact node_mem
  · rw [accessible node node_mem] at denied
    cases denied

/-- One node in front, and of the others at least those without read permission. -/
theorem of_primary {index : Nat} {primary : DeviceNode}
    (found : directory.ranked[index]? = some primary) {keep : DeviceNode → Bool}
    (keeps_denied : ∀ node, node.accessible = false → keep node = true) :
    directory.Lists (primary :: (directory.ranked.eraseIdx index).filter keep) := by
  rcases List.getElem?_eq_some_iff.mp found with ⟨inside, rfl⟩
  constructor
  case nonempty => exact fun none_listed => absurd none_listed (List.cons_ne_nil _ _)
  case parts =>
    refine ⟨(directory.ranked.eraseIdx index).filter fun node => !keep node, ?_, ?_⟩
    · have others := List.filter_append_perm keep (directory.ranked.eraseIdx index)
      exact (others.cons _).trans (List.getElem_cons_eraseIdx_perm inside)
    · intro node node_mem
      have not_kept := (List.mem_filter.mp node_mem).2
      rw [← Bool.not_eq_false]
      intro denied
      simp [keeps_denied node denied] at not_kept

end Lists

end DeviceDirectory

namespace Discovery

open DeviceDirectory (Lists)

/-! ### Asking nodes for their status -/

/-- The status request for a path. -/
def statusCommand (settings : DiscoverySettings) (path : FilePath) : CommandLine where
  program := "mt"
  arguments := ["-f", path.text, "status"]
  timeout := some (settings.probeTimeout * 1000)

/-- What is put out for paths that are asked for their status one after another. -/
def answers (host : Host σ) (settings : DiscoverySettings) (paths : List FilePath)
    (world : World σ) : List (FilePath × CommandOutput) :=
  paths.zip ((host.runEach (paths.map (statusCommand settings))).run world).1

/-- Whether a path is among the answers, with a success. -/
def hasAnswered (answers : List (FilePath × CommandOutput)) (path : FilePath) : Bool :=
  (answers.lookup path).any CommandOutput.succeeded

variable (host : Host σ) (settings : DiscoverySettings)

theorem answers_cons (path : FilePath) (paths : List FilePath) (world : World σ) :
    answers host settings (path :: paths) world =
      let first := (host.run (statusCommand settings path)).run world
      (path, first.1) :: answers host settings paths first.2 := by
  rw [answers, List.map_cons, Host.runEach_cons]
  rfl

theorem hasAnswered_cons_self (path : FilePath) (output : CommandOutput)
    (rest : List (FilePath × CommandOutput)) :
    hasAnswered ((path, output) :: rest) path = output.succeeded := by
  simp [hasAnswered]

theorem hasAnswered_cons_of_ne {path other : FilePath} (different : other ≠ path)
    (output : CommandOutput) (rest : List (FilePath × CommandOutput)) :
    hasAnswered ((path, output) :: rest) other = hasAnswered rest other := by
  have different : (other == path) = false := by simpa using different
  simp [hasAnswered, List.lookup_cons, different]

theorem answering_cons_of_accessible {node : DeviceNode} (accessible : node.accessible = true)
    (rest : List DeviceNode) (world : World σ) :
    (answering host settings (node :: rest)).run world =
      let first := (host.run (statusCommand settings node.path)).run world
      let later := (answering host settings rest).run first.2
      (if first.1.succeeded then node :: later.1 else later.1, later.2) := by
  rw [answering, if_pos accessible]
  rfl

theorem answering_cons_of_denied {node : DeviceNode} (denied : node.accessible = false)
    (rest : List DeviceNode) (world : World σ) :
    (answering host settings (node :: rest)).run world =
      let later := (answering host settings rest).run world
      (node :: later.1, later.2) := by
  rw [answering, if_neg (by simp [denied])]
  rfl

/-- The paths of the nodes that are asked: those with read permission. -/
def askedPaths (nodes : List DeviceNode) : List FilePath :=
  (nodes.filter DeviceNode.accessible).map DeviceNode.path

/-- Whether a node is listed beside the primary one. -/
def admits (answers : List (FilePath × CommandOutput)) (node : DeviceNode) : Bool :=
  !node.accessible || hasAnswered answers node.path

/-- What one node answers does not count for the others. -/
theorem filter_admits_cons {node : DeviceNode} {others : List DeviceNode}
    (apart : ∀ other ∈ others, DeviceNode.Apart node other) (output : CommandOutput)
    (answers : List (FilePath × CommandOutput)) :
    others.filter (admits ((node.path, output) :: answers)) = others.filter (admits answers) := by
  apply List.filter_congr
  intro other other_mem
  have different : other.path ≠ node.path := by
    intro equal
    apply apart other other_mem
    rw [equal]
    exact .refl _
  rw [admits, admits, hasAnswered_cons_of_ne different]

/-- The nodes beside the primary one are asked in order, except for those without read permission;
what is listed are those without, and those that answer. -/
theorem answering_run {nodes : List DeviceNode} (apart : nodes.Pairwise DeviceNode.Apart)
    (world : World σ) :
    (answering host settings nodes).run world =
      (nodes.filter (admits (answers host settings (askedPaths nodes) world)),
        ((host.runEach ((askedPaths nodes).map (statusCommand settings))).run world).2) := by
  induction nodes generalizing world with
  | nil =>
      have none_asked : askedPaths [] = [] := rfl
      rw [none_asked, List.map_nil, Host.runEach_nil]
      rfl
  | cons node rest ih =>
      rcases List.pairwise_cons.mp apart with ⟨first_apart, rest_apart⟩
      cases accessible : node.accessible with
      | false =>
          have not_asked : askedPaths (node :: rest) = askedPaths rest := by
            simp [askedPaths, accessible]
          rw [answering_cons_of_denied host settings accessible, ih rest_apart, not_asked,
            List.filter_cons_of_pos (by simp [admits, accessible])]
      | true =>
          have asked_first : askedPaths (node :: rest) = node.path :: askedPaths rest := by
            simp [askedPaths, accessible]
          rcases ran : (host.run (statusCommand settings node.path)).run world with ⟨output, after⟩
          rw [answering_cons_of_accessible host settings accessible, asked_first, answers_cons,
            List.map_cons, Host.runEach_cons, ran]
          dsimp only
          rw [ih rest_apart, List.filter_cons, filter_admits_cons first_apart]
          simp only [admits, accessible, hasAnswered_cons_self, Bool.not_true, Bool.false_or]

/-! ### The primary node -/

/-- The primary one among paths in the order of rank: the configured one, else the first. -/
def primaryPath? (configured : Option FilePath) (ranked : List FilePath) : Option FilePath :=
  (configured.bind fun device => ranked.find? fun path => path.same device) <|> ranked.head?

/-- The primary node is the configured one, else the first in the order of rank: as soon as there is
a rewinding node for the default mode, the first node is one. -/
theorem getElem?_primaryIndex (directory : DeviceDirectory) :
    directory.ranked[primaryIndex settings directory.ranked]? =
      ((settings.primaryDevice.bind fun device =>
        directory.ranked.find? fun node => node.path.same device) <|> directory.ranked.head?) := by
  -- The order of rank puts a rewinding node for the default mode first if there is one, so the
  -- search for such a node ends where the search for any node ends.
  have fallback : directory.ranked[(directory.ranked.findIdx? fun node =>
      node.isBasic && node.rewinding).getD 0]? = directory.ranked.head? := by
    cases nodes : directory.ranked with
    | nil => simp
    | cons first rest =>
        cases basic : (first :: rest).findIdx? fun node => node.isBasic && node.rewinding with
        | none => simp
        | some index =>
            rcases List.findIdx?_eq_some_iff_getElem.mp basic with ⟨inside, is_basic, _⟩
            have node_mem : (first :: rest)[index] ∈ directory.ranked := by
              rw [nodes]
              exact List.getElem_mem inside
            have first_basic := DeviceDirectory.head_of_ranked nodes node_mem is_basic
            rw [List.findIdx?_cons, if_pos first_basic] at basic
            cases basic
            rfl
  rw [primaryIndex]
  cases settings.primaryDevice with
  | none => simpa using fallback
  | some device =>
      simp only [Option.bind_some, List.find?_eq_bind_findIdx?_getElem?]
      cases found : directory.ranked.findIdx? fun node => node.path.same device with
      | none => simpa using fallback
      | some index =>
          rcases List.findIdx?_eq_some_iff_getElem.mp found with ⟨inside, _⟩
          simp [inside]

/-- The nodes beside the one at a place are those with other paths. -/
theorem eraseIdx_eq_filter {nodes : List DeviceNode} (apart : nodes.Pairwise DeviceNode.Apart)
    {index : Nat} {primary : DeviceNode} (found : nodes[index]? = some primary) :
    nodes.eraseIdx index = nodes.filter fun node => node.path ≠ primary.path := by
  induction nodes generalizing index with
  | nil => simp at found
  | cons node rest ih =>
      rcases List.pairwise_cons.mp apart with ⟨first_apart, rest_apart⟩
      cases index with
      | zero =>
          simp only [List.getElem?_cons_zero, Option.some.injEq] at found
          subst found
          have others : ∀ other ∈ rest, other.path ≠ node.path := by
            intro other other_mem equal
            exact first_apart other other_mem (by rw [equal]; exact .refl _)
          rw [List.eraseIdx_cons_zero, List.filter_cons_of_neg (by simp), eq_comm,
            List.filter_eq_self]
          intro other other_mem
          simpa using others other other_mem
      | succ index =>
          rw [List.getElem?_cons_succ] at found
          have different : node.path ≠ primary.path := by
            intro equal
            exact first_apart primary (List.mem_of_getElem? found) (by rw [equal]; exact .refl _)
          rw [List.eraseIdx_cons_succ, ih rest_apart found,
            List.filter_cons_of_pos (by simpa using different)]

/-! ### Both policies -/

variable {host : Host σ} {settings : DiscoverySettings}

/-- A scan shows what its policy lists. -/
theorem discover_run (host : Host σ) (settings : DiscoverySettings) (world : World σ) :
    (host.discover settings).run world =
      (Inventory.ofNodes
          ((applyPolicy host settings (host.devices world.files).ranked).run world).1
          (DeviceDirectory.deniedPaths (host.devices world.files).ranked),
        ((applyPolicy host settings (host.devices world.files).ranked).run world).2) :=
  rfl

theorem applyPolicy_rankAll (policy : settings.policy = .rankAll) (nodes : List DeviceNode)
    (world : World σ) : (applyPolicy host settings nodes).run world = (nodes, world) := by
  rw [applyPolicy, policy]
  rfl

theorem applyPolicy_of_none (policy : settings.policy = .primaryWithProbe)
    {nodes : List DeviceNode} (missing : nodes[primaryIndex settings nodes]? = none)
    (world : World σ) : (applyPolicy host settings nodes).run world = ([], world) := by
  rw [applyPolicy, policy]
  simp only [missing]
  rfl

theorem applyPolicy_of_some (policy : settings.policy = .primaryWithProbe)
    {nodes : List DeviceNode} {primary : DeviceNode}
    (found : nodes[primaryIndex settings nodes]? = some primary) (world : World σ) :
    (applyPolicy host settings nodes).run world =
      let admitted := (answering host settings (nodes.eraseIdx (primaryIndex settings nodes))).run
        world
      (primary :: admitted.1, admitted.2) := by
  rw [applyPolicy, policy]
  simp only [found]
  rfl

theorem applyPolicy_of_primary (policy : settings.policy = .primaryWithProbe)
    {nodes : List DeviceNode} (apart : nodes.Pairwise DeviceNode.Apart) {primary : DeviceNode}
    (found : nodes[primaryIndex settings nodes]? = some primary) (world : World σ) :
    let others := nodes.filter fun node => node.path ≠ primary.path
    (applyPolicy host settings nodes).run world =
      (primary :: others.filter (admits (answers host settings (askedPaths others) world)),
        ((host.runEach ((askedPaths others).map (statusCommand settings))).run world).2) := by
  have others_apart := apart.sublist (List.eraseIdx_sublist nodes (primaryIndex settings nodes))
  rw [eraseIdx_eq_filter apart found] at others_apart
  rw [applyPolicy_of_some policy found, eraseIdx_eq_filter apart found,
    answering_run host settings others_apart]

theorem getElem?_primaryIndex_eq_none_iff (settings : DiscoverySettings)
    {directory : DeviceDirectory} :
    directory.ranked[primaryIndex settings directory.ranked]? = none ↔ directory.ranked = [] := by
  constructor
  · intro missing
    rw [getElem?_primaryIndex] at missing
    cases nodes : directory.ranked with
    | nil => rfl
    | cons first rest => simp [nodes] at missing
  · intro none_found
    simp [none_found]

/-- What is listed under either policy are the nodes of the directory, except for nodes with read
permission that are left out. -/
theorem lists_applyPolicy (host : Host σ) (settings : DiscoverySettings)
    (directory : DeviceDirectory) (world : World σ) :
    directory.Lists ((applyPolicy host settings directory.ranked).run world).1 := by
  cases policy : settings.policy with
  | rankAll =>
      rw [applyPolicy_rankAll policy]
      exact .ranked directory
  | primaryWithProbe =>
      cases found : directory.ranked[primaryIndex settings directory.ranked]? with
      | none =>
          have none_found := (getElem?_primaryIndex_eq_none_iff settings).mp found
          have lists := Lists.ranked directory
          rw [none_found] at lists
          rw [applyPolicy_of_none policy found]
          exact lists
      | some primary =>
          rw [applyPolicy_of_primary policy directory.pairwise_ranked found]
          dsimp only
          rw [← eraseIdx_eq_filter directory.pairwise_ranked found]
          exact .of_primary found fun node denied => by simp [admits, denied]

/-- The nodes of a scan are those that its policy lists. -/
theorem listedNodes_discover (host : Host σ) (settings : DiscoverySettings) (world : World σ) :
    ((host.discover settings).run world).1.listedNodes =
      ((applyPolicy host settings (host.devices world.files).ranked).run world).1 :=
  Inventory.listedNodes_ofNodes (lists_applyPolicy host settings _ world).apart

end Discovery

end TapeAdmin
