import TapeAdmin.Proofs.Device.Admission

/-!
# Asking for the status refines the order of rank

A scan that asks nodes for their status lists a part of what a scan in the order of rank lists, with
one node moved to the front. Which part that is follows from what the tools answer to one status
request for each of the other nodes that have read permission.
-/

namespace TapeAdmin

namespace Discovery

variable {σ : Type}

variable {directory : DeviceDirectory} {nodes : List DeviceNode}

theorem askedPaths_eq
    (probed : ∀ node ∈ nodes, node.accessible = (directory.probe node.path).isAccessible) :
    askedPaths nodes =
      (nodes.map DeviceNode.path).filter fun path => (directory.probe path).isAccessible := by
  rw [askedPaths, List.filter_map]
  congr 1
  exact List.filter_congr probed

theorem map_path_filter_admits
    (probed : ∀ node ∈ nodes, node.accessible = (directory.probe node.path).isAccessible)
    (answers : List (FilePath × CommandOutput)) :
    (nodes.filter (admits answers)).map DeviceNode.path =
      (nodes.map DeviceNode.path).filter fun path =>
        !(directory.probe path).isAccessible || hasAnswered answers path := by
  rw [List.filter_map]
  congr 1
  apply List.filter_congr
  intro node node_mem
  rw [admits, probed node node_mem]
  rfl

theorem probed_of_mem_ranked {node : DeviceNode} (node_mem : node ∈ directory.ranked) :
    node.accessible = (directory.probe node.path).isAccessible := by
  rcases DeviceDirectory.isNode_of_mem_ranked node_mem with ⟨name, is_node⟩
  exact is_node.probed

/-- The primary path is that of the primary node. -/
theorem primaryPath?_map_path (settings : DiscoverySettings) (directory : DeviceDirectory) :
    primaryPath? settings.primaryDevice (directory.ranked.map DeviceNode.path) =
      (directory.ranked[primaryIndex settings directory.ranked]?).map DeviceNode.path := by
  rw [getElem?_primaryIndex, primaryPath?]
  cases settings.primaryDevice with
  | none => simp
  | some device =>
      simp only [Option.bind_some, List.find?_map, List.head?_map, Function.comp_def]
      cases directory.ranked.find? fun node => node.path.same device <;> simp

/-- Where the tools always succeed, every path that is asked has answered. -/
theorem hasAnswered_answers {host : Host σ}
    (succeeds : ∀ state execution,
      (host.runner.answer state execution).1.output.succeeded = true)
    (settings : DiscoverySettings) {paths : List FilePath} {path : FilePath}
    (path_mem : path ∈ paths) (world : World σ) :
    hasAnswered (answers host settings paths world) path = true := by
  induction paths generalizing world with
  | nil => simp at path_mem
  | cons first rest ih =>
      rw [answers_cons]
      dsimp only
      by_cases equal : path = first
      · subst equal
        rw [hasAnswered_cons_self]
        exact succeeds _ _
      · rw [hasAnswered_cons_of_ne equal]
        exact ih (List.mem_of_ne_of_mem equal path_mem) _

variable {host : Host σ} {settings : DiscoverySettings} {world : World σ}

theorem discover_rankAll (policy : settings.policy = .rankAll) :
    (host.discover settings).run world =
      (Inventory.ofNodes (host.devices world.files).ranked
        (DeviceDirectory.deniedPaths (host.devices world.files).ranked), world) := by
  rw [discover_run, applyPolicy_rankAll policy]

theorem listed_rankAll (policy : settings.policy = .rankAll) :
    ((host.discover settings).run world).1.listed =
      (host.devices world.files).ranked.map DeviceNode.path := by
  rw [discover_rankAll policy]
  rfl

theorem discover_of_ranked_eq_nil (policy : settings.policy = .primaryWithProbe)
    (none_found : (host.devices world.files).ranked = []) :
    (host.discover settings).run world = (⟨[], [], []⟩, world) := by
  have no_primary := (getElem?_primaryIndex_eq_none_iff settings).mpr none_found
  rw [discover_run, applyPolicy_of_none policy no_primary, none_found]
  simp [Inventory.ofNodes, Inventory.driveNumbers, DeviceDirectory.deniedPaths, FilePath.sorted]

/-- What is listed and asked beside the primary path. -/
theorem discover_of_primary (policy : settings.policy = .primaryWithProbe) {primary : DeviceNode}
    (found : (host.devices world.files).ranked[primaryIndex settings
      (host.devices world.files).ranked]? = some primary) :
    let directory := host.devices world.files
    let others := (directory.ranked.map DeviceNode.path).filter fun path => path ≠ primary.path
    let asked := others.filter fun path => (directory.probe path).isAccessible
    ((host.discover settings).run world).1.listed = primary.path :: others.filter (fun path =>
        !(directory.probe path).isAccessible ||
          hasAnswered (answers host settings asked world) path) ∧
      ((host.discover settings).run world).2.executed = world.executed ++
        asked.map fun path => { command := statusCommand settings path } := by
  intro directory others asked
  have probed : ∀ node ∈ directory.ranked.filter (fun node => node.path ≠ primary.path),
      node.accessible = (directory.probe node.path).isAccessible :=
    fun node node_mem => probed_of_mem_ranked (List.mem_of_mem_filter node_mem)
  have others_eq : (directory.ranked.filter fun node => node.path ≠ primary.path).map
      DeviceNode.path = others := by
    simp [others, List.filter_map, Function.comp_def]
  have asked_eq := askedPaths_eq probed
  rw [others_eq] at asked_eq
  rw [discover_run, applyPolicy_of_primary policy directory.pairwise_ranked found]
  constructor
  · change DeviceNode.path primary :: List.map DeviceNode.path _ = _
    rw [map_path_filter_admits probed, others_eq, asked_eq]
  · dsimp only
    rw [Host.executed_runEach, asked_eq, List.map_map]
    rfl

/-- Without a configured primary path and with tools that always succeed, everything is listed. -/
theorem applyPolicy_of_all_succeed (policy : settings.policy = .primaryWithProbe)
    (unconfigured : settings.primaryDevice = none)
    (succeeds : ∀ state execution,
      (host.runner.answer state execution).1.output.succeeded = true)
    (directory : DeviceDirectory) :
    ((applyPolicy host settings directory.ranked).run world).1 = directory.ranked := by
  have apart := directory.pairwise_ranked
  have found := getElem?_primaryIndex settings directory
  simp only [unconfigured, Option.bind_none, Option.orElse_eq_orElse, Option.orElse_none] at found
  cases nodes : directory.ranked with
  | nil =>
      rw [nodes] at found
      rw [applyPolicy_of_none policy found]
  | cons first rest =>
      rw [nodes] at found apart
      rw [applyPolicy_of_primary policy apart found]
      have at_front : (first :: rest)[0]? = some first := rfl
      have others : (first :: rest).filter (fun node => node.path ≠ first.path) = rest :=
        (eraseIdx_eq_filter apart at_front).symm
      rw [others, List.cons.injEq, List.filter_eq_self]
      refine ⟨rfl, ?_⟩
      intro node node_mem
      cases accessible : node.accessible with
      | false => simp [admits, accessible]
      | true =>
          have asked : node.path ∈ askedPaths rest :=
            List.mem_map_of_mem (List.mem_filter.mpr ⟨node_mem, accessible⟩)
          simp [admits, accessible, hasAnswered_answers succeeds settings asked]

/-- A scan in the order of rank lists all nodes of the directory. -/
theorem mem_listed_rankAll_iff (policy : settings.policy = .rankAll) {path : FilePath} :
    path ∈ ((host.discover settings).run world).1.listed ↔
      ∃ node, (host.devices world.files).Holds node ∧ node.path = path := by
  rw [listed_rankAll policy, List.mem_map]
  simp only [DeviceDirectory.mem_ranked_iff]

/--
A scan that asks nodes for their status, compared with a scan in the order of rank, which lists all
nodes of the directory. Nothing is found or asked where nothing is found in the order of rank.
Otherwise the primary path comes first: the configured one if it is found, else the first in the
order of rank. Of the other paths, in their order, those are listed that are denied or answer their
status request, and one request is made for each that is not denied. Both scans agree if no primary
path is configured and every request succeeds.
-/
theorem discover_primaryWithProbe (host : Host σ) (settings : DiscoverySettings)
    (world : World σ) :
    let directory := host.devices world.files
    let asking : DiscoverySettings := { settings with policy := .primaryWithProbe }
    let ranked := ((host.discover { settings with policy := .rankAll }).run world).1
    let result := (host.discover asking).run world
    (∀ path, path ∈ ranked.listed ↔ ∃ node, directory.Holds node ∧ node.path = path) ∧
      (ranked.listed = [] → result = (⟨[], [], []⟩, world)) ∧
      (ranked.listed ≠ [] → ∃ primary ∈ ranked.listed,
        primaryPath? settings.primaryDevice ranked.listed = some primary ∧
          let others := ranked.listed.filter fun path => path ≠ primary
          let asked := others.filter fun path => (directory.probe path).isAccessible
          result.1.listed = primary :: others.filter (fun path =>
              !(directory.probe path).isAccessible ||
                hasAnswered (answers host asking asked world) path) ∧
            result.2.executed = world.executed ++
              asked.map fun path => { command := statusCommand asking path }) ∧
      (settings.primaryDevice = none →
        (∀ state execution, (host.runner.answer state execution).1.output.succeeded = true) →
        result.1 = ranked) := by
  dsimp only
  refine ⟨fun path => mem_listed_rankAll_iff rfl, ?_⟩
  rw [discover_rankAll rfl]
  refine ⟨?_, ?_, ?_⟩
  · intro none_listed
    exact discover_of_ranked_eq_nil rfl (List.map_eq_nil_iff.mp none_listed)
  · intro some_listed
    have primary_eq := primaryPath?_map_path settings (host.devices world.files)
    cases found : (host.devices world.files).ranked[primaryIndex settings
        (host.devices world.files).ranked]? with
    | none =>
        have none_found := (getElem?_primaryIndex_eq_none_iff _).mp found
        simp [Inventory.ofNodes, none_found] at some_listed
    | some primary =>
        rw [found] at primary_eq
        refine ⟨primary.path, ?_, primary_eq, discover_of_primary rfl found⟩
        exact List.mem_map_of_mem (List.mem_of_getElem? found)
  · intro unconfigured succeeds
    rw [discover_run, applyPolicy_of_all_succeed ?policy ?unconfigured succeeds]
    case policy => rfl
    case unconfigured => exact unconfigured

/-- Of three nodes one does not answer, and one is denied. -/
theorem discover_primaryWithProbe_twoDrives :
    let asking : DiscoverySettings := { policy := .primaryWithProbe }
    let asked := ((Host.scanning .twoDrives .told).discover asking).run (.start [false])
    let willing := Host.scanning .twoDrives .willing
    let unreadable := Host.scanning ⟨⟨"/dev"⟩, .error .notFound, fun _ => .accessible⟩ .willing
    asked.1.listed = [⟨"/dev/st0"⟩, ⟨"/dev/nst0"⟩] ∧
      asked.2.executed = [{ command := statusCommand asking ⟨"/dev/st1"⟩ }] ∧
      ((willing.discover asking).run (.start ())).1 =
        ((willing.discover {}).run (.start ())).1 ∧
      (unreadable.discover asking).run (.start ()) = (⟨[], [], []⟩, .start ()) := by
  intro asking asked willing unreadable
  have ranked : (((Host.scanning .twoDrives .told).discover {}).run (.start [false])).1.listed =
      [⟨"/dev/st0"⟩, ⟨"/dev/st1"⟩, ⟨"/dev/nst0"⟩] := by
    rw [listed_rankAll rfl]
    change DeviceDirectory.twoDrives.ranked.map DeviceNode.path = _
    rw [DeviceDirectory.ranked_twoDrives]
    rfl
  have none_ranked : ((unreadable.discover {}).run (.start ())).1.listed = [] := by
    rw [listed_rankAll rfl]
    exact congrArg (List.map DeviceNode.path) List.mergeSort_nil
  rcases discover_primaryWithProbe (Host.scanning .twoDrives .told) {} (.start [false]) with
    ⟨_, _, found, _⟩
  rcases found (by rw [ranked]; exact List.cons_ne_nil _ _) with
    ⟨primary, _, primary_eq, listed_eq, executed_eq⟩
  rw [ranked] at primary_eq listed_eq executed_eq
  cases primary_eq
  rcases discover_primaryWithProbe willing {} (.start ()) with ⟨_, _, _, agree⟩
  rcases discover_primaryWithProbe unreadable {} (.start ()) with ⟨_, none_found, _⟩
  refine ⟨listed_eq.trans ?_, executed_eq.trans ?_, agree rfl (fun _ _ => rfl),
    none_found none_ranked⟩
  · decide +kernel
  · decide +kernel

end Discovery

end TapeAdmin
