import TapeAdmin.Cartridge.Request
import TapeAdmin.Console.Confirm
import TapeAdmin.Console.Display
import TapeAdmin.Console.Request
import TapeAdmin.Device.Selection
import TapeAdmin.Diagnostics.Run
import TapeAdmin.Volume.Format

/-!
# Carrying out requests

For each request of the operator the procedure that carries it out, prints what it did, and fails if
the request was not fulfilled.
-/

namespace TapeAdmin.Host

variable {σ : Type}

/-- Prints lines. -/
def printLines (lines : List String) : Attempt σ Unit :=
  (print (String.join (lines.map (· ++ "\n"))) : Procedure σ Unit)

/-- Ends a request as a failure unless its command succeeded. -/
def requireSuccess (action : String) (succeeded : Bool) (reason : String) : Attempt σ Unit :=
  if succeeded then pure () else throw (.commandFailed action reason)

/-- Like `requireSuccess`, for a command to one drive: a drive that another process holds is told
apart from one that does not work. -/
def requireDriveSuccess (action : String) (device : FilePath) (output : CommandOutput) :
    Attempt σ Unit :=
  if output.reportsBusy then throw (.deviceBusy device)
  else requireSuccess action output.succeeded output.errorMessage

/-- The output of a command without blanks at its end, as a line, unless there is none. -/
def outputLines (output : CommandOutput) : List String :=
  if (Text.trim output.stdout).isEmpty then [] else [Text.trimEnd output.stdout]

/-- The device that a target means. A device given by its path is taken as it is; otherwise a scan
is made, and the operator is warned about missing permissions. -/
def resolveDevice (host : Host σ) (configuration : Configuration) (target : Target) :
    Attempt σ FilePath := do
  match target.device with
  | some device => pure device
  | none =>
    let inventory ← host.discover configuration.discovery
    printLines inventory.warning
    match inventory.select target.drive target.preference target.mode with
    | .error fault => throw (.noDevice fault.message)
    | .ok device =>
      if device.isIn inventory.denied then throw (.permissionDenied device) else pure device

/-- Lists the devices. -/
def performList (host : Host σ) (configuration : Configuration) (detailed json : Bool) :
    Attempt σ Unit := do
  let inventory ← host.discover configuration.discovery
  if json then
    printLines [inventory.document.render 0]
    printLines inventory.warning
  else printLines (inventory.listing detailed)

/-- Prints the device that would be used. -/
def performSelect (host : Host σ) (configuration : Configuration) (target : Target) :
    Attempt σ Unit := do
  let device ← host.resolveDevice configuration target
  printLines [device.text]

/-- Prints what a drive says about itself and its tape. -/
def performInfo (host : Host σ) (configuration : Configuration) (target : Target) :
    Attempt σ Unit := do
  let device ← host.resolveDevice configuration target
  printLines ["📊 Device information for " ++ device.text ++ ":"]
  let information ← host.tapeInformation device
  printLines [Text.trimEnd information]

/-- Ejects a tape. -/
def performEject (host : Host σ) (configuration : Configuration) (target : Target) :
    Attempt σ Unit := do
  let device ← host.resolveDevice configuration target
  let attempts ← host.eject device
  printLines (attempts.summary "Eject")
  requireDriveSuccess "eject" device attempts.output

/-- Carries out a tape operation. -/
def performOperation (host : Host σ) (configuration : Configuration) (target : Target)
    (operation : TapeOperation) : Attempt σ Unit :=
  if operation = .eject then host.performEject configuration target
  else do
    let device ← host.resolveDevice configuration target
    let output ← host.operate device operation
    printLines (if output.succeeded then
        ("✅ " ++ operation.text ++ " completed on " ++ device.text) :: outputLines output
      else ["❌ " ++ operation.text ++ " failed: " ++ output.errorMessage])
    requireDriveSuccess (operation.command device).render device output

/-- Mounts a tape, at the configured mount point if none is given. -/
def performMount (host : Host σ) (configuration : Configuration) (target : Target)
    (mountPoint : Option FilePath) (options : List String) : Attempt σ Unit := do
  let device ← host.resolveDevice configuration target
  let request : MountRequest := {
    device := device
    mountPoint := mountPoint.getD configuration.mount.defaultMountPoint
    options := configuration.mount.options ++ options }
  printLines ["🔧 Mounting " ++ request.device.text ++ " at " ++ request.mountPoint.text]
  let (attempts, table) ← host.mount configuration.mount .empty request
  printLines (attempts.summary "Mount")
  match table.get? request.mountPoint with
  | some record => printLines (record.lines request.mountPoint)
  | none => pure ()
  requireSuccess "ltfs mount" attempts.succeeded attempts.output.errorMessage

/-- Unmounts a mount point. This process has mounted nothing, so only the host knows of it. -/
def performUnmount (host : Host σ) (mountPoint : FilePath) : Attempt σ Unit := do
  let (attempts, _) ← host.unmount .empty mountPoint
  printLines (attempts.summary "Unmount")
  requireSuccess "unmount" attempts.succeeded attempts.output.errorMessage

/-- Prints the mounts. -/
def performMounts (host : Host σ) : Attempt σ Unit := do
  let mounts ← host.listMounts
  printLines (ListedMount.table mounts)

/-- The question before a tape is formatted. -/
def formatQuestion : String := "Are you sure you want to continue?"

/-- What the operator reads before a tape is formatted. -/
def formatWarning (request : FormatRequest) : List String :=
  ["", "⚠️  Formatting will ERASE ALL DATA on the tape!", "  Device: " ++ request.device.text] ++
    match request.label with
    | some label => ["  Label: " ++ label]
    | none => []

/-- The decision of the operator: made on the command line, or asked for. -/
def decideToFormat (assumeYes : Bool) : Attempt σ Bool :=
  if assumeYes then pure true else confirm formatQuestion

/-- What is left of a request to format a tape once the operator has decided. -/
def formatIfAgreed (host : Host σ) (settings : FormatSettings) (request : FormatRequest)
    (agreed : Bool) : Attempt σ Unit :=
  if agreed then do
    let output ← host.format settings request
    printLines (if output.succeeded then "✅ Tape formatted successfully" :: outputLines output
      else ["❌ Format failed: " ++ output.errorMessage])
    requireSuccess "mkltfs" output.succeeded output.errorMessage
  else printLines ["Format cancelled"]

/-- Formats a tape once the request was checked and the operator has agreed to it. -/
def performFormat (host : Host σ) (configuration : Configuration) (target : Target)
    (label : Option String) (force : Bool) (blockSize : Option Nat) (assumeYes : Bool) :
    Attempt σ Unit := do
  let device ← host.resolveDevice configuration target
  let request : FormatRequest :=
    { device := device, label := label, force := force, blockSize := blockSize }
  request.validate
  printLines (formatWarning request)
  let agreed ← decideToFormat assumeYes
  host.formatIfAgreed configuration.format request agreed

/-- What is said about reports that were saved. -/
def savedLines (output : Option FilePath) : List String :=
  output.toList.map fun path => "💾 Diagnostics saved to " ++ path.text

/-- Saves reports, if there is a path to save them at, and says so. -/
def keepReports (reports : List SuiteReport) (output : Option FilePath) : Attempt σ Unit := do
  match output with
  | some path => saveReports path reports
  | none => pure ()
  printLines (savedLines output)

/-- Runs diagnostics, and saves the reports if a file is given for them. -/
def performDiagnose (host : Host σ) (configuration : Configuration) (target : Target)
    (suite : SuiteKind) (allowWrite : Bool) (output : Option FilePath) : Attempt σ Unit := do
  let device ← host.resolveDevice configuration target
  let reports ← host.diagnose configuration.diagnostics suite device allowWrite
  printLines (SuiteReport.summary reports)
  keepReports reports output
  let aborted := (reports.filter fun report => !report.completed).length
  requireSuccess "diagnostics" (aborted == 0)
    (toString aborted ++ " suite(s) aborted on " ++ device.text)

/-- Reads or writes the attributes of a cartridge. -/
def performAttributes (host : Host σ) (configuration : Configuration) (target : Target)
    (action : AttributeRequest) : Attempt σ Unit := do
  let device ← host.resolveDevice configuration target
  match action with
  | .summary =>
    let summary ← host.cartridgeSummary device
    printLines [Text.trimEnd summary]
  | .read id partition =>
    let items ← host.readAttributes device id partition
    printLines (Attribute.table items)
  | .write id value partition =>
    host.writeAttribute device { id := id, value := value, partition := partition }
    printLines ["✅ Attribute " ++ Attribute.idText id ++ " written on " ++ device.text]

/-- Prints the status of the host. -/
def performStatus (host : Host σ) (configuration : Configuration) : Attempt σ Unit := do
  let status ← host.status configuration.discovery
  (print status.render : Procedure σ Unit)

/-- Carries out a request. -/
def perform (host : Host σ) (configuration : Configuration) : Request → Attempt σ Unit
  | .list detailed json => host.performList configuration detailed json
  | .select target => host.performSelect configuration target
  | .info target => host.performInfo configuration target
  | .operate target operation => host.performOperation configuration target operation
  | .eject target => host.performEject configuration target
  | .mount target mountPoint options => host.performMount configuration target mountPoint options
  | .unmount mountPoint => host.performUnmount mountPoint
  | .mounts => host.performMounts
  | .format target label force blockSize assumeYes =>
    host.performFormat configuration target label force blockSize assumeYes
  | .diagnose target suite allowWrite output =>
    host.performDiagnose configuration target suite allowWrite output
  | .attributes target action => host.performAttributes configuration target action
  | .status => host.performStatus configuration

end TapeAdmin.Host
