import TapeAdmin.Device.Mode
import TapeAdmin.File.Path

/-!
# Nodes, drives and inventories

A device node is one way to address a drive. The nodes of one drive are kept in two lists, by
whether they rewind, each ordered by mode. An inventory is the outcome of one scan: the nodes in the
order of preference, and again by drive.
-/

namespace TapeAdmin

/-- A device node of a tape drive. -/
structure DeviceNode where
  path : FilePath
  drive : Nat
  rewinding : Bool
  mode : DensityMode
  /-- Cleared only when the check for read permission failed. -/
  accessible : Bool := true
  deriving Repr

namespace DeviceNode

/-- A node for the default mode. -/
def isBasic (node : DeviceNode) : Bool :=
  node.mode.isDefault

/-- The order of modes as a comparison. -/
def modeLe (node other : DeviceNode) : Bool :=
  node.mode.rank ≤ other.mode.rank

end DeviceNode

/-- Whether the operator wants a node that rewinds when it is closed. -/
inductive RewindPreference where
  | rewinding
  | nonRewinding
  deriving DecidableEq, Repr

/-- The nodes of one drive. -/
structure Drive where
  number : Nat
  rewinding : List DeviceNode
  nonRewinding : List DeviceNode
  deriving Repr

namespace Drive

/-- The nodes of the preferred kind. -/
def nodes (drive : Drive) : RewindPreference → List DeviceNode
  | .rewinding => drive.rewinding
  | .nonRewinding => drive.nonRewinding

/-- How many nodes a drive has. -/
def nodeCount (drive : Drive) : Nat :=
  drive.rewinding.length + drive.nonRewinding.length

/-- The drive with a number, out of a list of nodes; nodes of one mode keep their order. -/
def ofNodes (number : Nat) (nodes : List DeviceNode) : Drive :=
  let own := nodes.filter fun node => node.drive == number
  { number := number
    rewinding := (own.filter fun node => node.rewinding).mergeSort DeviceNode.modeLe
    nonRewinding := (own.filter fun node => !node.rewinding).mergeSort DeviceNode.modeLe }

end Drive

/-- What one scan found. -/
structure Inventory where
  /-- The paths of all nodes in the order of preference. -/
  listed : List FilePath
  /-- The drives in the order of their numbers. -/
  drives : List Drive
  /-- The paths without read permission, in order. -/
  denied : List FilePath
  deriving Repr

namespace Inventory

/-- The drive numbers of nodes, in order and without repetitions. -/
def driveNumbers (nodes : List DeviceNode) : List Nat :=
  ((nodes.map DeviceNode.drive).mergeSort (· ≤ ·)).eraseDups

/-- The inventory of nodes that are in the order of preference. -/
def ofNodes (nodes : List DeviceNode) (denied : List FilePath) : Inventory where
  listed := nodes.map DeviceNode.path
  drives := (driveNumbers nodes).map fun number => Drive.ofNodes number nodes
  denied := FilePath.sorted denied

/-- Whether a scan found no node. -/
def isEmpty (inventory : Inventory) : Bool :=
  inventory.listed.isEmpty

/-- Whether all nodes belong to one drive. -/
def isSingleDrive (inventory : Inventory) : Bool :=
  inventory.drives.length == 1

/-- The drive with a number. -/
def drive? (inventory : Inventory) (number : Nat) : Option Drive :=
  inventory.drives.find? fun drive => drive.number == number

end Inventory

end TapeAdmin
