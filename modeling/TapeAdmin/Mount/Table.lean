import TapeAdmin.File.Path

/-!
# The mount table

What this process has mounted, by mount point. Mount points are told apart by their components, and
there is at most one entry for each. The table is a memory of the process only; what is really
mounted is known to the operating system.
-/

namespace TapeAdmin

/-- What is mounted at a mount point. -/
structure MountRecord where
  device : FilePath
  options : List String
  /-- The local time of the mount. -/
  mountedAt : String
  deriving Repr

/-- The entries of a mount table. -/
structure MountTable where
  entries : List (FilePath × MountRecord)
  deriving Repr

namespace MountTable

/-- The table of a process that has mounted nothing. -/
def empty : MountTable := ⟨[]⟩

/-- The record at a mount point. -/
def get? (table : MountTable) (mountPoint : FilePath) : Option MountRecord :=
  (table.entries.find? fun entry => entry.1.same mountPoint).map Prod.snd

/-- The table without a mount point. -/
def erase (table : MountTable) (mountPoint : FilePath) : MountTable :=
  ⟨table.entries.filter fun entry => !entry.1.same mountPoint⟩

/-- The table with a record at a mount point, in place of an earlier one. -/
def insert (table : MountTable) (mountPoint : FilePath) (record : MountRecord) : MountTable :=
  ⟨(mountPoint, record) :: (table.erase mountPoint).entries⟩

/-- The number of mount points. -/
def size (table : MountTable) : Nat :=
  table.entries.length

/-- Whether nothing is mounted. -/
def isEmpty (table : MountTable) : Bool :=
  table.entries.isEmpty

end MountTable

end TapeAdmin
