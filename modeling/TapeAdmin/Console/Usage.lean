/-!
# Usage

The reasons for which a command line is not carried out. Two of them are wishes and no faults.
-/

namespace TapeAdmin

/-- Why a command line is not carried out. -/
inductive UsageFault where
  /-- Help was asked for. -/
  | helpWanted
  /-- The version was asked for. -/
  | versionWanted
  /-- A verb that needs another one stands alone. -/
  | nothingAsked
  /-- A verb that needs another one has arguments, but no verb after it. -/
  | missingVerb
  | unknownVerb
  | unknownArgument
  /-- A value is missing, or is none of those that are allowed. -/
  | invalidValue
  /-- A value cannot be read. -/
  | unreadableValue
  /-- Arguments exclude each other, or one that may be given once is repeated. -/
  | conflict
  | missingArgument
  /-- A flag has a value. -/
  | unwantedValue
  deriving DecidableEq, Repr

namespace UsageFault

/-- The status with which the program ends. -/
def exitStatus : UsageFault → Nat
  | .helpWanted | .versionWanted => 0
  | _ => 2

/-- The line that names the program and its version. -/
def versionLine : String := "ltfsadm 0.1.0-alpha\n"

/-- What the program prints, if it says more than that the command line is wrong. -/
def message? : UsageFault → Option String
  | .versionWanted => some versionLine
  | _ => none

end UsageFault

end TapeAdmin
