import TapeAdmin.Failure
import TapeAdmin.File.System

/-!
# The host

Everything outside the program that it deals with: the tools that it runs, the file system, the
terminal, and the device directory. The tools are a parameter: whatever answers commands may keep a
state of its own, so that the answer to a command depends on everything that was executed before it.
Procedures are functions from the world before to a result and the world after.
-/

namespace TapeAdmin

/-- One execution of a command, with the bytes of the file that it was told to read, if any. -/
structure Execution where
  command : CommandLine
  payload : Option (List UInt8) := none
  deriving DecidableEq, Repr

/-- The answer to an execution: its output, and the bytes left in the file it was told to write. -/
structure Reply where
  output : CommandOutput
  response : List UInt8 := []

/-- Whatever executes commands, with a state of type `σ`. -/
structure Runner (σ : Type) where
  answer : σ → Execution → Reply × σ

/-- What the check for read permission says about a device node. -/
inductive ProbeOutcome where
  | accessible
  | denied
  | busy
  | unavailable (reason : String)
  deriving DecidableEq, Repr

namespace ProbeOutcome

/-- Only missing permission makes a node inaccessible: a busy or empty drive is still there. -/
def isAccessible : ProbeOutcome → Bool
  | .denied => false
  | _ => true

/-- The outcome that a failed check stands for. -/
def ofError (error : SystemError) : ProbeOutcome :=
  if error.isPermission then .denied
  else if error = .busy then .busy
  else .unavailable error.message

end ProbeOutcome

/-- An entry of the device directory. -/
structure DeviceEntry where
  name : String
  isCharacterDevice : Bool
  deriving DecidableEq, Repr

/-- The directory of the device nodes: what is in it, and what the permission check says. -/
structure DeviceDirectory where
  root : FilePath
  entries : Except SystemError (List DeviceEntry)
  probe : FilePath → ProbeOutcome

namespace FileSystem

/-- The permission check on a path of a file system. -/
def probe (system : FileSystem) (path : FilePath) : ProbeOutcome :=
  if path.text.toList.contains '\x00' then
    .unavailable (path.text ++ " contains a NUL byte")
  else
    match system.find path with
    | .ok _ => .accessible
    | .error error => .ofError error

/-- A directory of a file system as a device directory. -/
def deviceDirectory (system : FileSystem) (root : FilePath) : DeviceDirectory where
  root := root
  entries := (system.list root).map fun names => names.map fun (name, device) => ⟨name, device⟩
  probe := system.probe

end FileSystem

/-- One reading at the terminal: the bytes that were read, and all that had been printed by then. -/
structure Reading where
  line : List UInt8
  printed : String
  deriving DecidableEq, Repr

/-- What does not change while the program runs. -/
structure Host (σ : Type) where
  runner : Runner σ
  /-- The device directory, read anew at every scan. -/
  devices : FileSystem → DeviceDirectory
  /-- Where temporary files and directories are made; one is in use at a time. -/
  temporary : FilePath
  /-- The local time, as `YYYY-MM-DD HH:MM:SS`. -/
  now : String

/-- What changes while the program runs. -/
structure World (σ : Type) where
  tools : σ
  /-- Everything executed so far, in order. -/
  executed : List Execution
  files : FileSystem
  /-- Everything printed so far. -/
  printed : String
  /-- What is typed at the terminal and not read yet. -/
  typed : List UInt8
  /-- Every reading at the terminal so far, in order. -/
  readings : List Reading := []

/-- A procedure that always has a result. -/
abbrev Procedure (σ α : Type) := StateM (World σ) α

/-- A procedure that may fail; what it did before it failed stays done. -/
abbrev Attempt (σ α : Type) := ExceptT Failure (StateM (World σ)) α

namespace Host

variable {σ : Type}

/-- Executes a command. -/
def execute (host : Host σ) (execution : Execution) : Procedure σ Reply := fun world =>
  let (reply, tools) := host.runner.answer world.tools execution
  (reply, { world with tools := tools, executed := world.executed ++ [execution] })

/-- Executes a command that reads and writes no file of the program. -/
def run (host : Host σ) (command : CommandLine) : Procedure σ CommandOutput :=
  Reply.output <$> host.execute { command := command }

end Host

/-- Prints a text. -/
def print {σ : Type} (text : String) : Procedure σ Unit :=
  modify fun world => { world with printed := world.printed ++ text }

end TapeAdmin
