import TapeAdmin.Configuration.Settings
import TapeAdmin.Host
import TapeAdmin.Text.LetterCase
import TapeAdmin.Text.Search

/-!
# Formatting

A request to format the tape in a drive, and the command that does it. The block size is the
requested one; if none is requested, the vendor of the drive decides.
-/

namespace TapeAdmin

/-- A request to format a tape. -/
structure FormatRequest where
  device : FilePath
  label : Option String := none
  force : Bool := false
  blockSize : Option Nat := none
  deriving Repr

namespace FormatRequest

/-- The smallest block size. -/
def minBlockSize : Nat := 512

/-- The largest block size. -/
def maxBlockSize : Nat := 2097152

/-- Refuses a requested block size out of range. -/
def validate (request : FormatRequest) : Except Failure Unit :=
  match request.blockSize with
  | none => .ok ()
  | some size =>
    if minBlockSize ≤ size ∧ size ≤ maxBlockSize then .ok ()
    else .error (.invalidParameter ("Block size must be between " ++ toString minBlockSize ++
      " and " ++ toString maxBlockSize ++ ", got " ++ toString size))

/-- An empty label is no label. -/
def labelArguments (request : FormatRequest) : List String :=
  match request.label with
  | some label => if label.isEmpty then [] else ["-n", label]
  | none => []

/-- The command that formats the tape. -/
def command (request : FormatRequest) : CommandLine where
  program := "mkltfs"
  arguments := ["-d", request.device.text] ++ request.labelArguments ++
    (if request.force then ["-f"] else []) ++
    (match request.blockSize with
      | some size => ["-b", toString size]
      | none => [])

end FormatRequest

/-- The command that asks a drive for its vendor. -/
def inquiryCommand (device : FilePath) : CommandLine where
  program := "sg_inq"
  arguments := [device.text]

/-- Whether the answer to an inquiry names the vendor Quantum, in any letter case. -/
def namesQuantum (output : CommandOutput) : Bool :=
  output.succeeded && Text.containsWord "QUANTUM".toList (Text.upper output.stdout)

namespace Host

variable {σ : Type}

/-- The request with the block size that the vendor of the drive asks for, if none was requested. -/
def withVendorBlockSize (host : Host σ) (settings : FormatSettings) (request : FormatRequest) :
    Procedure σ FormatRequest := do
  if request.blockSize.isNone then
    let output ← host.run (inquiryCommand request.device)
    pure (if namesQuantum output then { request with blockSize := some settings.quantumBlockSize }
      else request)
  else pure request

/-- Formats a tape. A failure of the command is its output, and is never tried again. -/
def format (host : Host σ) (settings : FormatSettings) (request : FormatRequest) :
    Attempt σ CommandOutput := do
  request.validate
  let request ← host.withVendorBlockSize settings request
  host.run request.command

end Host

end TapeAdmin
