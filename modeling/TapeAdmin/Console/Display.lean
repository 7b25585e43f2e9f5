import TapeAdmin.Cartridge.Attribute
import TapeAdmin.Command.Chain
import TapeAdmin.Device.Document
import TapeAdmin.Diagnostics.Report
import TapeAdmin.Mount.Listing
import TapeAdmin.Mount.Table
import TapeAdmin.Status

/-!
# What the operator sees

The lines that the program prints about inventories, attempts, mounts, reports and attributes.
-/

namespace TapeAdmin

namespace Inventory

/-- The warning about nodes without read permission; nothing if there are none. -/
def warning (inventory : Inventory) : List String :=
  if inventory.denied.isEmpty then []
  else
    ["", "⚠️  Permission denied on:"] ++ inventory.denied.map (fun path => "  " ++ path.text) ++
      ["💡 Add your user to the tape group: " ++ permissionRemedy,
        "   then log out and back in for the change to take effect"]

/-- A node in the detailed listing. -/
def nodeLine (node : DeviceNode) : String :=
  Text.padRight 16 node.path.text ++ " " ++ node.mode.description ++
    if node.accessible then "" else " (permission denied)"

/-- The nodes of a drive in the detailed listing. -/
def driveLines (drive : Drive) : List String :=
  ["", "Drive " ++ toString drive.number ++ ":", "  Rewinding:"] ++
    drive.rewinding.map (fun node => "    " ++ nodeLine node) ++ ["  Non-rewinding:"] ++
    drive.nonRewinding.map fun node => "    " ++ nodeLine node

/-- The listing of the devices, by drive if details are wanted. -/
def listing (inventory : Inventory) (detailed : Bool) : List String :=
  (if inventory.isEmpty then ["❌ No tape devices detected"]
    else
      ["📼 Found " ++ toString inventory.listed.length ++ " tape device(s) on " ++
        toString inventory.drives.length ++ " drive(s)"] ++
      if detailed then inventory.drives.flatMap driveLines
      else inventory.listed.map fun path => "  " ++ path.text) ++
    inventory.warning

end Inventory

/-- Every command of a chain, then how it ended. -/
def Attempts.summary (attempts : Attempts) (action : String) : List String :=
  attempts.attempted.map (fun command => "  Trying: " ++ command.render) ++
    [if attempts.succeeded then "✅ " ++ action ++ " succeeded"
      else "❌ " ++ action ++ " failed: " ++ attempts.output.errorMessage]

/-- What was mounted where. -/
def MountRecord.lines (record : MountRecord) (mountPoint : FilePath) : List String :=
  ["  Device: " ++ record.device.text, "  Mount point: " ++ mountPoint.text] ++
    (if record.options.isEmpty then []
      else ["  Options: " ++ String.intercalate "," record.options]) ++
    ["  Mounted at: " ++ record.mountedAt]

/-- A line of `width` dashes. -/
def rule (width : Nat) : String :=
  String.ofList (List.replicate width '-')

/-- The columns of the table of mounts. -/
def ListedMount.row (source mountPoint fileSystem : String) : String :=
  Text.padRight 24 source ++ " " ++ Text.padRight 32 mountPoint ++ " " ++
    Text.padRight 8 fileSystem

/-- The table of mounts. -/
def ListedMount.table (mounts : List ListedMount) : List String :=
  if mounts.isEmpty then ["No LTFS filesystems mounted"]
  else
    [row "Source" "Mount point" "Type", rule 66] ++
      mounts.map fun mount => row mount.source mount.mountPoint.text mount.fileSystem

/-- How many steps failed in all. -/
def SuiteReport.totalFailures (reports : List SuiteReport) : Nat :=
  reports.foldr (fun report others => report.failures + others) 0

/-- The last line about diagnostics. -/
def SuiteReport.verdict (reports : List SuiteReport) : String :=
  if totalFailures reports = 0 then "✅ All diagnostic steps passed"
  else "⚠️  " ++ toString (totalFailures reports) ++ " diagnostic step(s) failed"

/-- The reports, each followed by an empty line, and the verdict on all of them. -/
def SuiteReport.summary (reports : List SuiteReport) : List String :=
  reports.map render ++ [verdict reports]

/-- The columns of the table of attributes. -/
def Attribute.row (id name format readOnly value : String) : String :=
  Text.padRight 8 id ++ " " ++ Text.padRight 40 name ++ " " ++ Text.padRight 7 format ++ " " ++
    Text.padRight 3 readOnly ++ " " ++ value

/-- The table of attributes. -/
def Attribute.table (items : List Attribute) : List String :=
  if items.isEmpty then ["No attributes returned"]
  else
    [row "ID" "Name" "Format" "RO" "Value", rule 80] ++
      items.map fun item =>
        row (idText item.id) item.name item.format.word (if item.readOnly then "yes" else "no")
          item.display

end TapeAdmin
