import TapeAdmin.Cartridge.Request
import TapeAdmin.Diagnostics.Suite

/-!
# Harmless commands

Three kinds of commands destroy data: those that format a tape, those that copy data onto it, and
those that write an attribute of a cartridge. All other commands are harmless here.
-/

namespace TapeAdmin

namespace CommandLine

/-- Whether a command formats a tape. -/
def formatsTape (command : CommandLine) : Bool :=
  command.program == "mkltfs"

/-- Whether a command copies data from one place to another. -/
def copiesData (command : CommandLine) : Bool :=
  command.program == "dd"

/-- The last sixteen arguments: the bytes of the command that a tool passes on to a drive. -/
def driveBytes (command : CommandLine) : List String :=
  command.arguments.drop (command.arguments.length - 16)

/-- Whether a command makes a drive write attributes. -/
def writesAttributes (command : CommandLine) : Bool :=
  command.program == "sg_raw" && command.driveBytes.head? == some "8d"

/-- A command that neither formats a tape nor copies data nor writes attributes. -/
structure IsHarmless (command : CommandLine) : Prop where
  formats : command.formatsTape = false
  copies : command.copiesData = false
  writes : command.writesAttributes = false

/-- The programs that can destroy data. -/
def destructivePrograms : List String :=
  ["mkltfs", "dd", "sg_raw"]

theorem isHarmless_of_program {command : CommandLine}
    (other : command.program ∉ destructivePrograms) : command.IsHarmless := by
  simp only [destructivePrograms, List.mem_cons, List.not_mem_nil, or_false, not_or] at other
  rcases other with ⟨noFormat, noCopy, noDriveCommand⟩
  refine ⟨?_, ?_, ?_⟩
  · simpa [formatsTape] using noFormat
  · simpa [copiesData] using noCopy
  · simp [writesAttributes, noDriveCommand]

/-- A command that formats a tape destroys nothing else. -/
theorem copies_writes_of_formatsTape {command : CommandLine}
    (formats : command.formatsTape = true) :
    command.copiesData = false ∧ command.writesAttributes = false := by
  have program_eq : command.program = "mkltfs" := by simpa [formatsTape] using formats
  simp [copiesData, writesAttributes, program_eq]

/-- A command that writes attributes destroys nothing else. -/
theorem formats_copies_of_writesAttributes {command : CommandLine}
    (writes : command.writesAttributes = true) :
    command.formatsTape = false ∧ command.copiesData = false := by
  simp only [writesAttributes, Bool.and_eq_true, beq_iff_eq] at writes
  simp [formatsTape, copiesData, writes.1]

theorem formats_writes_of_program {command : CommandLine}
    (other : command.program ∉ ["mkltfs", "sg_raw"]) :
    command.formatsTape = false ∧ command.writesAttributes = false := by
  simp only [List.mem_cons, List.not_mem_nil, or_false, not_or] at other
  simp [formatsTape, writesAttributes, other.1, other.2]

theorem driveBytes_eq {program : String} {front bytes : List String} (sixteen : bytes.length = 16) :
    driveBytes { program := program, arguments := front ++ bytes } = bytes := by
  simp [driveBytes, sixteen]

end CommandLine

namespace DriveCommand

theorem length_tokens (command : DriveCommand) : command.tokens.length = command.length := by
  rw [tokens, List.length_map]

theorem length_readAttributes (first : UInt16) (partition : UInt8) (allocation : Nat) :
    (readAttributes first partition allocation).length = 16 := by
  simp [readAttributes, Text.length_toBigEndian]

theorem length_writeAttributes (partition : UInt8) (length : Nat) :
    (writeAttributes partition length).length = 16 := by
  simp [writeAttributes, Text.length_toBigEndian]

end DriveCommand

/-- Reading attributes is harmless: the command to the drive starts with another byte. -/
theorem CommandLine.readCommand_isHarmless (file device : FilePath) (id : Option UInt16)
    (partition : UInt8) : (Host.readCommand file device id partition).IsHarmless := by
  refine ⟨rfl, rfl, ?_⟩
  have sixteen (allocation : Nat) :
      (DriveCommand.readAttributes (id.getD 0) partition allocation).tokens.length = 16 := by
    rw [DriveCommand.length_tokens, DriveCommand.length_readAttributes]
  rw [writesAttributes, Host.readCommand, driveBytes_eq (sixteen _)]
  rfl

theorem CommandLine.writeCommand_writesAttributes (file device : FilePath) (partition : UInt8)
    (length : Nat) : (Host.writeCommand file device partition length).writesAttributes = true := by
  have sixteen : (DriveCommand.writeAttributes partition length).tokens.length = 16 := by
    rw [DriveCommand.length_tokens, DriveCommand.length_writeAttributes]
  rw [writesAttributes, Host.writeCommand, driveBytes_eq sixteen]
  rfl

namespace DiagnosticSuite

/-- The programs of the suites that do not write to the tape. -/
def readOnlyPrograms : List String :=
  ["mt", "tapeinfo", "sg_readcap", "sg_inq", "sg_vpd", "lsscsi", "sg_logs", "iostat"]

theorem not_destructive_of_readOnlyPrograms :
    ∀ program ∈ readOnlyPrograms, program ∉ CommandLine.destructivePrograms := by
  decide

/-- The programs of the suite that writes to the tape. -/
def readWritePrograms : List String :=
  ["dd", "mt", "cmp"]

theorem not_destructive_of_readWritePrograms :
    ∀ program ∈ readWritePrograms, program ∉ ["mkltfs", "sg_raw"] := by
  decide

/-- Every command of a suite is a call of one of the programs. -/
def UsesOnly (programs : List String) (suite : DiagnosticSuite) : Prop :=
  ∀ step ∈ suite.steps, ∀ command, step.action = .run command → command.program ∈ programs

theorem usesOnly_readOnlySuites (kind : SuiteKind) (device : FilePath)
    (settings : DiagnosticSettings) :
    ∀ suite ∈ readOnlySuites kind device settings, suite.UsesOnly readOnlyPrograms := by
  cases kind <;>
    simp [readOnlySuites, UsesOnly, driveStatus, tapeStatus, position, hardware, loadTest, seekTest,
      logPages, errorStats, firmware, require, attempt, tool, TapeOperation.command,
      readOnlyPrograms]

theorem usesOnly_readWrite (device scratch : FilePath) (megabytes : Nat) :
    (readWrite device scratch megabytes).UsesOnly readWritePrograms := by
  simp [UsesOnly, readWrite, require, attempt, copy, TapeOperation.command, readWritePrograms]

end DiagnosticSuite

end TapeAdmin
