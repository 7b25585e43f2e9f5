import TapeAdmin.File.Path

/-!
# Configuration

The settings of the program, in the sections of the configuration file. Every setting has a default,
so a missing file, section or key is as good as the default written out.
-/

namespace TapeAdmin

/-- How a scan arrives at its list of nodes. -/
inductive DiscoveryPolicy where
  /-- Every tape node is listed, in order of rank. -/
  | rankAll
  /-- One primary node is listed, and every other node whose drive answers a status request. -/
  | primaryWithProbe
  deriving DecidableEq, Repr

/-- The word for a policy in the configuration file. -/
def DiscoveryPolicy.word : DiscoveryPolicy → String
  | .rankAll => "rank-all"
  | .primaryWithProbe => "primary-with-probe"

/-- The settings for a scan. -/
structure DiscoverySettings where
  policy : DiscoveryPolicy := .rankAll
  primaryDevice : Option FilePath := none
  /-- After how many seconds a status request is given up. -/
  probeTimeout : Nat := 5
  deriving Repr

/-- The settings for mounting. -/
structure MountSettings where
  defaultMountPoint : FilePath := ⟨"/mnt/ltfs"⟩
  /-- Options for every mount, before those of the operator. -/
  options : List String := []
  rewindBeforeMount : Bool := true
  deriving Repr

/-- The settings for formatting. -/
structure FormatSettings where
  /-- The block size for drives of the vendor Quantum. -/
  quantumBlockSize : Nat := 65536
  deriving Repr

/-- The settings for diagnostics. -/
structure DiagnosticSettings where
  /-- How many seconds a drive is given after unloading. -/
  loadSettle : Nat := 5
  /-- The amount of test data, in megabytes. -/
  testMegabytes : Nat := 10
  logPages : List String := ["0x02", "0x03", "0x06", "0x0c", "0x0d", "0x0e", "0x0f"]
  deriving Repr

/-- All settings. -/
structure Configuration where
  /-- The directory with the device nodes. -/
  deviceDirectory : FilePath := ⟨"/dev"⟩
  discovery : DiscoverySettings := {}
  mount : MountSettings := {}
  format : FormatSettings := {}
  diagnostics : DiagnosticSettings := {}
  deriving Repr

end TapeAdmin
