import TapeAdmin.Device.Drive
import TapeAdmin.Device.Name

/-!
# Choosing a device

From an inventory and the wishes of the operator to one device path. A drive that is not asked for
by number is the one with the lowest number. Among the nodes of the preferred kind the wanted mode
comes first; failing that the default mode, then a node whose name ends in no mode letter, then any
node.
-/

namespace TapeAdmin

/-- Why no device was chosen. -/
inductive SelectionFault where
  | noDrives
  | noSuchDrive (number : Nat)
  | noNodes (number : Nat) (preference : RewindPreference)
  deriving DecidableEq, Repr

/-- The wording of a selection fault. -/
def SelectionFault.message : SelectionFault → String
  | .noDrives => "no tape drives detected"
  | .noSuchDrive number => "tape drive " ++ toString number ++ " not found"
  | .noNodes number .rewinding => "drive " ++ toString number ++ " has no Rewinding device nodes"
  | .noNodes number .nonRewinding =>
    "drive " ++ toString number ++ " has no NonRewinding device nodes"

namespace DeviceNode

/-- Whether the name at the end of a node's path ends in no mode letter. -/
def hasPlainName (node : DeviceNode) : Bool :=
  match node.path.fileName? with
  | some name => !DeviceName.endsInModeLetter name
  | none => false

/-- The preferred node where no mode is wanted, or the wanted mode is missing. -/
def fallback? (nodes : List DeviceNode) : Option DeviceNode :=
  (nodes.find? fun node => node.mode.isDefault) <|> nodes.find? hasPlainName <|> nodes.head?

/-- The preferred node of a list; there is none only if the list is empty. -/
def choose? (nodes : List DeviceNode) (mode : Option String) : Option DeviceNode :=
  match mode with
  | some wanted => (nodes.find? fun node => node.mode.word == wanted) <|> fallback? nodes
  | none => fallback? nodes

theorem choose?_eq_none_iff {nodes : List DeviceNode} {mode : Option String} :
    choose? nodes mode = none ↔ nodes = [] := by
  cases nodes <;> cases mode <;> simp [choose?, fallback?]

end DeviceNode

namespace Inventory

/-- The drive that is meant: the one asked for, or the first. -/
def resolve (inventory : Inventory) (number : Option Nat) : Except SelectionFault Drive :=
  match number with
  | some number =>
    match inventory.drive? number with
    | some drive => .ok drive
    | none => .error (.noSuchDrive number)
  | none =>
    match inventory.drives.head? with
    | some drive => .ok drive
    | none => .error .noDrives

/-- The path of the device that the wishes of the operator lead to. -/
def select (inventory : Inventory) (number : Option Nat) (preference : RewindPreference)
    (mode : Option String) : Except SelectionFault FilePath := do
  let drive ← inventory.resolve number
  match DeviceNode.choose? (drive.nodes preference) mode with
  | some node => .ok node.path
  | none => .error (.noNodes drive.number preference)

end Inventory

end TapeAdmin
