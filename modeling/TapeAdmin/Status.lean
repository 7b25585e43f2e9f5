import TapeAdmin.Device.Discovery
import TapeAdmin.Mount.Control

/-!
# System status

The version of LTFS, the devices, the mounts and the kernel of the host on one page. Each part is
collected on its own, so that one that fails does not hide the others.
-/

namespace TapeAdmin

/-- How to get permission to use tape devices. -/
def permissionRemedy : String := "sudo usermod -a -G tape $USER"

/-- What is known about the host. -/
structure SystemStatus where
  /-- The local time at which the status was collected. -/
  collectedAt : String
  /-- What LTFS says about its version, if it works. -/
  ltfsVersion : Option String
  inventory : Inventory
  mounts : List ListedMount
  /-- Why the mounts could not be listed. -/
  mountsError : Option String
  /-- What the kernel says about itself. -/
  kernel : Option String
  deriving Repr

namespace SystemStatus

/-- The section on the version of LTFS. -/
def versionSection (version : Option String) : List String :=
  ["LTFS Version:",
    match version with
    | some version => Text.trimEnd version
    | none => "LTFS not found or not working"]

/-- The section on the devices. -/
def deviceSection (inventory : Inventory) : List String :=
  ["Tape Devices:"] ++
  (if inventory.isEmpty then ["No tape devices detected"] else []) ++
  inventory.listed.map FilePath.text ++
  if inventory.denied.isEmpty then []
  else
    ["Permission denied:"] ++ inventory.denied.map (fun path => "  " ++ path.text) ++
      ["Fix with `" ++ permissionRemedy ++ "`, then log out and back in"]

/-- The section on the mounts. -/
def mountSection (mounts : List ListedMount) (error : Option String) : List String :=
  ["Mounted LTFS Filesystems:"] ++
  match error with
  | some error => ["Error checking mounts: " ++ error]
  | none =>
    if mounts.isEmpty then ["No LTFS filesystems mounted"]
    else mounts.map fun mount =>
      mount.source ++ " on " ++ mount.mountPoint.text ++ " type " ++ mount.fileSystem

/-- The section on the kernel. -/
def kernelSection (kernel : Option String) : List String :=
  ["System Information:", Text.trimEnd (kernel.getD "unavailable")]

/-- The sections of a status in order. -/
def sections (status : SystemStatus) : List (List String) :=
  [["=== LTFS System Status ===", "Collected: " ++ status.collectedAt],
    versionSection status.ltfsVersion,
    deviceSection status.inventory,
    mountSection status.mounts status.mountsError,
    kernelSection status.kernel]

/-- The text of a status: its sections, with an empty line between them. -/
def render (status : SystemStatus) : String :=
  String.intercalate "\n" (status.sections.map fun lines =>
    String.join (lines.map (· ++ "\n")))

end SystemStatus

/-- The command that asks for the version of LTFS. -/
def versionCommand : CommandLine := { program := "ltfs", arguments := ["--version"] }

/-- The command that asks for the kernel. -/
def kernelCommand : CommandLine := { program := "uname", arguments := ["-a"] }

/-- What LTFS says about its version: some releases say it in their error text. -/
def versionText (output : CommandOutput) : Option String :=
  if output.succeeded then
    some (if (Text.trim output.stdout).isEmpty then output.stderr else output.stdout)
  else none

/-- Collects the status of the host. -/
def Host.status {σ : Type} (host : Host σ) (settings : DiscoverySettings) :
    Procedure σ SystemStatus := do
  let version ← host.run versionCommand
  let inventory ← host.discover settings
  let mounts ← host.listMounts.run
  let kernel ← host.run kernelCommand
  pure {
    collectedAt := host.now
    ltfsVersion := versionText version
    inventory := inventory
    mounts := match mounts with | .ok mounts => mounts | .error _ => []
    mountsError := match mounts with | .ok _ => none | .error failure => some failure.message
    kernel := if kernel.succeeded then some kernel.stdout else none }

end TapeAdmin
