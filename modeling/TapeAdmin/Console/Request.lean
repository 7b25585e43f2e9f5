import TapeAdmin.Cartridge.Attribute
import TapeAdmin.Device.Drive
import TapeAdmin.Diagnostics.Suite

/-!
# Requests

What the operator can ask for on the command line.
-/

namespace TapeAdmin

/-- Which device a request is aimed at: one given by its path, or one to be chosen. -/
structure Target where
  device : Option FilePath := none
  drive : Option Nat := none
  nonRewinding : Bool := false
  mode : Option String := none
  deriving Repr

/-- Whether the target is a node that rewinds. -/
def Target.preference (target : Target) : RewindPreference :=
  if target.nonRewinding then .nonRewinding else .rewinding

/-- What to do with the attributes of a cartridge. -/
inductive AttributeRequest where
  | summary
  | read (id : Option UInt16) (partition : UInt8)
  | write (id : UInt16) (value : String) (partition : UInt8)
  deriving Repr

/-- What the operator asks for. -/
inductive Request where
  | list (detailed : Bool) (json : Bool)
  | select (target : Target)
  | info (target : Target)
  | operate (target : Target) (operation : TapeOperation)
  | eject (target : Target)
  | mount (target : Target) (mountPoint : Option FilePath) (options : List String)
  | unmount (mountPoint : FilePath)
  | mounts
  | format (target : Target) (label : Option String) (force : Bool) (blockSize : Option Nat)
      (assumeYes : Bool)
  | diagnose (target : Target) (suite : SuiteKind) (allowWrite : Bool) (output : Option FilePath)
  | attributes (target : Target) (action : AttributeRequest)
  | status
  deriving Repr

/-- A request with the options that apply to every request. -/
structure Invocation where
  request : Request
  verbose : Bool := false
  logJson : Bool := false
  configuration : Option FilePath := none
  deriving Repr

end TapeAdmin
