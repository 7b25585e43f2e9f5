import TapeAdmin.Command.Line
import TapeAdmin.File.Path
import TapeAdmin.Text.Blank

/-!
# Mount requests

What to mount where, and the commands that may do it. Some drive families need an extra option and
others refuse it, so there are four variants of the mount command and two of the unmount command.
-/

namespace TapeAdmin

/-- A device, the directory at which its tape is to appear, and the options of the operator. -/
structure MountRequest where
  device : FilePath
  mountPoint : FilePath
  options : List String
  deriving Repr

namespace MountRequest

/-- The extra options of the variants, in the order in which they are tried. -/
def optionSets : List (List String) :=
  [[], ["force_mount_no_eod"], ["sync_type=unmount"], ["force_mount_no_eod", "sync_type=unmount"]]

/-- The options of the operator without surrounding blanks, leaving out the empty ones. -/
def ownOptions (request : MountRequest) : List String :=
  (request.options.map Text.trim).filter fun option => !option.isEmpty

/-- The options of one variant: the device, the extra options, then those of the operator. -/
def optionList (request : MountRequest) (extra : List String) : List String :=
  ("devname=" ++ request.device.text) :: extra ++ request.ownOptions

/-- The mount command with the given extra options. -/
def variant (request : MountRequest) (extra : List String) : CommandLine where
  program := "ltfs"
  arguments := ["-o", String.intercalate "," (request.optionList extra), request.mountPoint.text]

/-- The mount commands in the order in which they are tried. -/
def commands (request : MountRequest) : List CommandLine :=
  optionSets.map request.variant

end MountRequest

/-- The unmount commands in the order in which they are tried. -/
def unmountCommands (mountPoint : FilePath) : List CommandLine :=
  [{ program := "umount", arguments := [mountPoint.text] },
   { program := "fusermount", arguments := ["-u", mountPoint.text] }]

end TapeAdmin
