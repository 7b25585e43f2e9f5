import TapeAdmin.Device.Drive
import TapeAdmin.Text.Document

/-!
# Inventories as documents

The outcome of a scan for machines.
-/

namespace TapeAdmin

/-- A node as a document. -/
def DeviceNode.document (node : DeviceNode) : Document :=
  .object [
    ("path", .text node.path.text),
    ("drive_number", .number node.drive),
    ("rewinding", .bool node.rewinding),
    ("mode", .text node.mode.documentName),
    ("accessible", .bool node.accessible)]

/-- A drive as a document. -/
def Drive.document (drive : Drive) : Document :=
  .object [
    ("drive_number", .number drive.number),
    ("rewinding_modes", .list (drive.rewinding.map DeviceNode.document)),
    ("non_rewinding_modes", .list (drive.nonRewinding.map DeviceNode.document))]

/-- Paths as a document. -/
def FilePath.documents (paths : List FilePath) : Document :=
  .list (paths.map fun path => .text path.text)

/-- An inventory as a document. -/
def Inventory.document (inventory : Inventory) : Document :=
  .object [
    ("ordered_devices", FilePath.documents inventory.listed),
    ("physical_drives",
      .object (inventory.drives.map fun drive => (toString drive.number, drive.document))),
    ("permission_issues", FilePath.documents inventory.denied),
    ("single_drive_mode", .bool inventory.isSingleDrive)]

end TapeAdmin
