/-!
# Density modes

Every drive has a node for its default mode and may have further nodes, marked by a letter at the
end of their name, for other densities or compatibility modes.
-/

namespace TapeAdmin

/-- The mode that a device node stands for. -/
inductive DensityMode where
  | default
  | auto
  | low
  | medium
  deriving DecidableEq, Repr

namespace DensityMode

/-- The mode that a letter at the end of a device name stands for. -/
def ofLetter? : Char → Option DensityMode
  | 'a' => some .auto
  | 'l' => some .low
  | 'm' => some .medium
  | _ => none

/-- The letters of a mode at the end of a device name. -/
def suffix : DensityMode → List Char
  | .default => []
  | .auto => ['a']
  | .low => ['l']
  | .medium => ['m']

/-- The word by which the operator asks for a mode: its letter, or `default`. -/
def word : DensityMode → String
  | .default => "default"
  | .auto => "a"
  | .low => "l"
  | .medium => "m"

/-- The name of a mode in documents. -/
def documentName : DensityMode → String
  | .default => "default"
  | .auto => "auto"
  | .low => "low"
  | .medium => "medium"

/-- What a mode is for. -/
def description : DensityMode → String
  | .default => "Default (compression enabled)"
  | .auto => "Auto-density selection"
  | .low => "Low/Legacy density mode"
  | .medium => "Medium density mode"

/-- The place of a mode in the order of modes, the default mode first. -/
def rank : DensityMode → Nat
  | .default => 0
  | .auto => 1
  | .low => 2
  | .medium => 3

theorem rank_injective {mode other : DensityMode} (equal : mode.rank = other.rank) :
    mode = other := by
  cases mode <;> cases other <;> first | rfl | (simp [rank] at equal)

/-- Whether a mode is the default one. -/
def isDefault (mode : DensityMode) : Bool :=
  mode == .default

@[simp]
theorem isDefault_iff {mode : DensityMode} : mode.isDefault = true ↔ mode = .default := by
  simp [isDefault]

theorem word_injective {mode other : DensityMode} (equal : mode.word = other.word) :
    mode = other := by
  cases mode <;> cases other <;> first | rfl | (simp [word] at equal)

end DensityMode

end TapeAdmin
