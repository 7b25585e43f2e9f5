import TapeAdmin.Configuration.Settings
import TapeAdmin.Device.Drive
import TapeAdmin.Device.Name
import TapeAdmin.Host

/-!
# Discovery

One scan of the device directory. The character devices with the name of a tape device node are
candidates, ranked so that nodes for the default mode come before the others and rewinding nodes
before those that do not rewind. The policy then decides which candidates are listed. A scan never
fails: a directory that cannot be read holds no candidates.
-/

namespace TapeAdmin

namespace DeviceNode

/-- The group of a node: default mode before the others, rewinding before not rewinding. -/
def group (node : DeviceNode) : Nat :=
  match node.isBasic, node.rewinding with
  | true, true => 0
  | true, false => 1
  | false, true => 2
  | false, false => 3

/-- The order of rank: by group, then by drive, then by mode. -/
def rankLe (node other : DeviceNode) : Bool :=
  node.group < other.group ||
    (node.group == other.group &&
      (node.drive < other.drive ||
        (node.drive == other.drive && node.mode.rank ≤ other.mode.rank)))

end DeviceNode

namespace DeviceDirectory

/-- The node for an entry: a character device with the name of a tape device node. -/
def node? (directory : DeviceDirectory) (entry : DeviceEntry) : Option DeviceNode :=
  if entry.isCharacterDevice then
    (DeviceName.parse? entry.name).map fun name =>
      let path := directory.root.join entry.name
      { path := path
        drive := name.drive
        rewinding := name.rewinding
        mode := name.mode
        accessible := (directory.probe path).isAccessible }
  else none

/-- The nodes of a list without those whose path occurred before. -/
def firstByPath (nodes : List DeviceNode) : List DeviceNode :=
  nodes.foldl (fun kept node =>
    if kept.any fun other => other.path.same node.path then kept else kept ++ [node]) []

/-- The tape device nodes of a directory in the order of its entries. -/
def scan (directory : DeviceDirectory) : List DeviceNode :=
  match directory.entries with
  | .ok entries => firstByPath (entries.filterMap directory.node?)
  | .error _ => []

/-- The tape device nodes of a directory in the order of rank. -/
def ranked (directory : DeviceDirectory) : List DeviceNode :=
  directory.scan.mergeSort DeviceNode.rankLe

/-- The paths of the nodes without read permission. -/
def deniedPaths (nodes : List DeviceNode) : List FilePath :=
  (nodes.filter fun node => !node.accessible).map DeviceNode.path

end DeviceDirectory

namespace Discovery

/-- The place of the primary node: the configured one, else the first rewinding node for the default
mode, else the first node. -/
def primaryIndex (settings : DiscoverySettings) (nodes : List DeviceNode) : Nat :=
  let configured := settings.primaryDevice.bind fun device =>
    nodes.findIdx? fun node => node.path.same device
  let basic := nodes.findIdx? fun node => node.isBasic && node.rewinding
  (configured <|> basic).getD 0

/-- The status request by which a node is admitted. -/
def statusRequest (settings : DiscoverySettings) (node : DeviceNode) : CommandLine where
  program := "mt"
  arguments := ["-f", node.path.text, "status"]
  timeout := some (settings.probeTimeout * 1000)

/-- The nodes that are listed beside the primary node: those without read permission, and those that
answer a status request. -/
def answering {σ : Type} (host : Host σ) (settings : DiscoverySettings) :
    List DeviceNode → Procedure σ (List DeviceNode)
  | [] => pure []
  | node :: nodes => do
    if node.accessible then
      let output ← host.run (statusRequest settings node)
      let admitted ← answering host settings nodes
      pure (if output.succeeded then node :: admitted else admitted)
    else
      let admitted ← answering host settings nodes
      pure (node :: admitted)

/-- The nodes that the policy lists, out of nodes in the order of rank. -/
def applyPolicy {σ : Type} (host : Host σ) (settings : DiscoverySettings)
    (nodes : List DeviceNode) : Procedure σ (List DeviceNode) :=
  match settings.policy with
  | .rankAll => pure nodes
  | .primaryWithProbe =>
    let index := primaryIndex settings nodes
    match nodes[index]? with
    | none => pure []
    | some primary => do
      let admitted ← answering host settings (nodes.eraseIdx index)
      pure (primary :: admitted)

end Discovery

/-- Scans the device directory. -/
def Host.discover {σ : Type} (host : Host σ) (settings : DiscoverySettings) :
    Procedure σ Inventory := do
  let directory := host.devices (← get).files
  let nodes := directory.ranked
  let listed ← Discovery.applyPolicy host settings nodes
  pure (Inventory.ofNodes listed (DeviceDirectory.deniedPaths nodes))

end TapeAdmin
