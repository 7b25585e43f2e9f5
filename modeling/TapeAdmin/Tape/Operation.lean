import TapeAdmin.Command.Chain

/-!
# Tape control

The operations of a drive on the tape in it, each carried out by one command; ejecting has a second
command to fall back on, for drives that do not know how to eject.
-/

namespace TapeAdmin

/-- An operation of a drive on the tape in it. -/
inductive TapeOperation where
  | status
  | rewind
  | offline
  | load
  | tell
  | spaceForward (count : Nat)
  | spaceBackward (count : Nat)
  | retension
  | clean
  | reset
  | eject
  deriving DecidableEq, Repr

namespace TapeOperation

/-- The word for an operation. -/
def name : TapeOperation → String
  | .status => "status"
  | .rewind => "rewind"
  | .offline => "offline"
  | .load => "load"
  | .tell => "tell"
  | .spaceForward _ => "fsf"
  | .spaceBackward _ => "bsf"
  | .retension => "tension"
  | .clean => "clean"
  | .reset => "reset"
  | .eject => "eject"

/-- How many file marks an operation spaces over. -/
def count? : TapeOperation → Option Nat
  | .spaceForward count | .spaceBackward count => some count
  | _ => none

/-- An operation in words, with its count. -/
def text (operation : TapeOperation) : String :=
  match operation.count? with
  | some count => operation.name ++ " " ++ toString count
  | none => operation.name

/-- The command for an operation on a device. -/
def command (operation : TapeOperation) (device : FilePath) : CommandLine where
  program := "mt"
  arguments := ["-f", device.text, operation.name] ++
    (operation.count?.map (toString : Nat → String)).toList

end TapeOperation

namespace Host

variable {σ : Type}

/-- Ejects the tape, or at least takes the drive offline. -/
def eject (host : Host σ) (device : FilePath) : Procedure σ Attempts :=
  host.tryEach [TapeOperation.eject.command device, TapeOperation.offline.command device]

/-- Carries out an operation on a device. -/
def operate (host : Host σ) (device : FilePath) (operation : TapeOperation) :
    Procedure σ CommandOutput :=
  if operation = .eject then Attempts.output <$> host.eject device
  else host.run (operation.command device)

/-- What the drive says about itself and its tape, or why it does not answer. -/
def tapeInformation (host : Host σ) (device : FilePath) : Procedure σ String := do
  let output ← host.operate device .status
  pure (if output.succeeded then output.stdout else "Error: " ++ output.stderr)

end Host

end TapeAdmin
