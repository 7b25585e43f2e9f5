import Mathlib.Data.List.Induction
import TapeAdmin.Mount.Table

/-!
# The history of a mount table

A mount table is what a history of insertions and removals leaves of an empty one. At each mount
point only the latest event counts, and mount points that differ in their text only are one.
-/

namespace TapeAdmin

/-- A change of a mount table. -/
inductive TableEvent where
  | inserted (mountPoint : FilePath) (record : MountRecord)
  | removed (mountPoint : FilePath)

namespace TableEvent

/-- The mount point at which something changes. -/
def mountPoint : TableEvent → FilePath
  | .inserted mountPoint _ => mountPoint
  | .removed mountPoint => mountPoint

/-- The table after the change. -/
def apply (event : TableEvent) (table : MountTable) : MountTable :=
  match event with
  | .inserted mountPoint record => table.insert mountPoint record
  | .removed mountPoint => table.erase mountPoint

end TableEvent

namespace MountTable

/-- A table with at most one entry for each mount point. -/
def Distinct (table : MountTable) : Prop :=
  table.entries.Pairwise fun entry other => ¬entry.1.Same other.1

variable {table : MountTable} {mountPoint path : FilePath} {record : MountRecord}

theorem Distinct.erase (distinct : table.Distinct) (mountPoint : FilePath) :
    (table.erase mountPoint).Distinct :=
  List.Pairwise.filter _ distinct

theorem Distinct.apply (distinct : table.Distinct) (event : TableEvent) :
    (event.apply table).Distinct := by
  cases event with
  | removed mountPoint => exact distinct.erase mountPoint
  | inserted mountPoint record =>
      refine List.pairwise_cons.mpr ⟨?_, distinct.erase mountPoint⟩
      intro entry entry_mem same
      have kept := (List.mem_filter.mp entry_mem).2
      simp [FilePath.same_iff.mpr same.symm] at kept

end MountTable

end TapeAdmin
