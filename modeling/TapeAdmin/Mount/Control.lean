import TapeAdmin.Configuration.Settings
import TapeAdmin.Mount.Listing
import TapeAdmin.Mount.Request
import TapeAdmin.Mount.Table
import TapeAdmin.Tape.Operation

/-!
# Mounting and unmounting

Mounting creates the mount point, rewinds the tape if so configured, and tries the mount commands;
only a mount that worked enters the mount table. Unmounting tries the unmount commands whether or
not the mount point is in the table.
-/

namespace TapeAdmin.Host

variable {σ : Type}

/-- Creates the directory for a mount point. -/
def createMountPoint (mountPoint : FilePath) : Procedure σ (Except SystemError Unit) :=
  fun world =>
    let (files, created) := world.files.ensureDirectory mountPoint
    (created, { world with files := files })

/-- What a mount does before its commands are tried: the mount point is created, and the tape is
rewound if so configured, whatever becomes of that. -/
def prepareMount (host : Host σ) (settings : MountSettings) (request : MountRequest) :
    Procedure σ (Except SystemError Unit) := do
  match ← createMountPoint request.mountPoint with
  | .error error => pure (.error error)
  | .ok () =>
    if settings.rewindBeforeMount then discard (host.operate request.device .rewind)
    pure (.ok ())

/-- The record of a mount that worked. -/
def mountRecord (host : Host σ) (request : MountRequest) : MountRecord where
  device := request.device
  options := request.options
  mountedAt := host.now

/-- What a mount does once it is prepared: its commands are tried, and the table changes if one of
them works. -/
def tryMount (host : Host σ) (table : MountTable) (request : MountRequest) :
    Procedure σ (Attempts × MountTable) := do
  let attempts ← host.tryEach request.commands
  if attempts.succeeded then
    pure (attempts, table.insert request.mountPoint (host.mountRecord request))
  else pure (attempts, table)

/-- Mounts a tape, and records it in the table if that worked. -/
def mount (host : Host σ) (settings : MountSettings) (table : MountTable)
    (request : MountRequest) : Procedure σ (Attempts × MountTable) := do
  match ← host.prepareMount settings request with
  | .error error =>
    let reason := "cannot create mount point " ++ request.mountPoint.text ++ ": " ++ error.message
    pure (⟨[], .failure reason⟩, table)
  | .ok () => host.tryMount table request

/-- Unmounts a mount point, and removes it from the table if that worked. -/
def unmount (host : Host σ) (table : MountTable) (mountPoint : FilePath) :
    Procedure σ (Attempts × MountTable) := do
  let attempts ← host.tryEach (unmountCommands mountPoint)
  pure (attempts, if attempts.succeeded then table.erase mountPoint else table)

/-- The command that lists the mounts of the operating system. -/
def listMountsCommand : CommandLine := { program := "mount", arguments := [] }

/-- The mounts that the operating system lists, as far as they are of interest. -/
def listMounts (host : Host σ) : Attempt σ (List ListedMount) := do
  let output ← host.run listMountsCommand
  let output ← output.orFailure listMountsCommand
  pure (ListedMount.parse output.stdout)

end TapeAdmin.Host
