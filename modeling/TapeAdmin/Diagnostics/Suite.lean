import TapeAdmin.Configuration.Settings
import TapeAdmin.Duration
import TapeAdmin.Tape.Operation

/-!
# Diagnostic suites

A suite is a list of steps, each of which runs a command or waits. When a required step fails, the
rest of its suite is left out; an optional step may fail without consequences. A step may keep only
the lines of its output that mention a word.
-/

namespace TapeAdmin

/-- What a step does. -/
inductive StepAction where
  | run (command : CommandLine)
  /-- Waits a number of seconds. -/
  | pause (seconds : Nat)
  deriving Repr

/-- One step of a suite. -/
structure DiagnosticStep where
  name : String
  action : StepAction
  required : Bool := false
  /-- The word that a line of output must mention to be kept, in any letter case. -/
  lineFilter : Option String := none
  deriving Repr

/-- A list of steps under a title. -/
structure DiagnosticSuite where
  title : String
  steps : List DiagnosticStep
  deriving Repr

/-- The suites that the operator can ask for. -/
inductive SuiteKind where
  | driveStatus
  | tapeStatus
  | position
  | hardware
  | loadTest
  | seekTest
  | logPages
  | errorStats
  | firmware
  | readWrite
  | full
  deriving DecidableEq, Repr

namespace SuiteKind

/-- Every kind of suite. -/
def all : List SuiteKind :=
  [.driveStatus, .tapeStatus, .position, .hardware, .loadTest, .seekTest, .logPages, .errorStats,
    .firmware, .readWrite, .full]

/-- The word by which the operator asks for a suite. -/
def word : SuiteKind → String
  | .driveStatus => "drive-status"
  | .tapeStatus => "tape-status"
  | .position => "position"
  | .hardware => "hardware"
  | .loadTest => "load-test"
  | .seekTest => "seek-test"
  | .logPages => "log-pages"
  | .errorStats => "error-stats"
  | .firmware => "firmware"
  | .readWrite => "read-write"
  | .full => "full"

/-- The kind of suite that a word asks for. -/
def ofWord? (word : String) : Option SuiteKind :=
  all.find? fun kind => kind.word == word

/-- Whether a kind consists of nothing but writing to the tape. -/
def writesToTape (kind : SuiteKind) : Bool :=
  kind == .readWrite

/-- Whether a kind has a part that writes to the tape. -/
def hasWritePart (kind : SuiteKind) : Bool :=
  kind == .readWrite || kind == .full

end SuiteKind

namespace DiagnosticSuite

/-- A step that must not fail. -/
def require (name : String) (command : CommandLine) : DiagnosticStep :=
  { name := name, action := .run command, required := true }

/-- A step that may fail. -/
def attempt (name : String) (command : CommandLine) : DiagnosticStep :=
  { name := name, action := .run command }

/-- A tool with arguments, the last of them the device. -/
def tool (program : String) (arguments : List String) (device : FilePath) : CommandLine :=
  { program := program, arguments := arguments ++ [device.text] }

/-- Whether the drive answers. -/
def driveStatus (device : FilePath) : DiagnosticSuite where
  title := "Drive Status"
  steps := [require "Drive status" (TapeOperation.status.command device)]

/-- What is known about the tape. -/
def tapeStatus (device : FilePath) : DiagnosticSuite where
  title := "Tape Status"
  steps := [
    attempt "Basic Status" (TapeOperation.status.command device),
    attempt "Tape Alert Flags" (tool "tapeinfo" ["-f"] device),
    attempt "Block Limits" (tool "sg_readcap" [] device)]

/-- Where the tape stands. -/
def position (device : FilePath) : DiagnosticSuite where
  title := "Tape Position"
  steps := [require "Current position" (TapeOperation.tell.command device)]

/-- What the drive says about itself. -/
def hardware (device : FilePath) : DiagnosticSuite where
  title := "Hardware Information"
  steps := [
    attempt "SCSI Inquiry" (tool "sg_inq" [] device),
    attempt "Drive Serial" (tool "sg_vpd" ["-p", "sn"] device),
    { name := "Device Info"
      action := .run { program := "lsscsi", arguments := [] }
      lineFilter := some "tape" }]

/-- Unloads the tape and loads it again after a pause. -/
def loadTest (device : FilePath) (settle : Nat) : DiagnosticSuite where
  title := "Load/Unload Test"
  steps := [
    require "Unload tape" (TapeOperation.offline.command device),
    { name := "Wait " ++ Duration.ofSeconds settle, action := .pause settle },
    require "Load tape" (TapeOperation.load.command device),
    require "Check status" (TapeOperation.status.command device)]

/-- Spaces forward and backward. -/
def seekTest (device : FilePath) : DiagnosticSuite where
  title := "Seek Test"
  steps := [
    attempt "Rewind to beginning" (TapeOperation.rewind.command device),
    attempt "Seek forward 1000 file marks" ((TapeOperation.spaceForward 1000).command device),
    attempt "Check position" (TapeOperation.tell.command device),
    attempt "Seek backward 500 file marks" ((TapeOperation.spaceBackward 500).command device),
    attempt "Check position" (TapeOperation.tell.command device),
    attempt "Return to beginning" (TapeOperation.rewind.command device)]

/-- Shows the configured log pages. -/
def logPages (device : FilePath) (pages : List String) : DiagnosticSuite where
  title := "Drive Log Pages"
  steps := pages.map fun page => attempt ("Log Page " ++ page) (tool "sg_logs" ["-p", page] device)

/-- Shows the error counters. -/
def errorStats (device : FilePath) : DiagnosticSuite where
  title := "Error Statistics"
  steps := [
    attempt "Error Counter Log" (tool "sg_logs" ["-p", "0x03"] device),
    attempt "TapeAlert Flags" (tool "sg_logs" ["-p", "0x2e"] device),
    attempt "Device Statistics" (tool "iostat" ["-x"] device)]

/-- Shows what identifies the drive and its firmware. -/
def firmware (device : FilePath) : DiagnosticSuite where
  title := "Firmware Information"
  steps := [
    attempt "Device Identification" (tool "sg_inq" ["-p", "0x83"] device),
    attempt "Unit Serial Number" (tool "sg_inq" ["-p", "0x80"] device),
    attempt "Software Interface ID" (tool "sg_inq" ["-p", "0x84"] device),
    attempt "Management Network Addresses" (tool "sg_inq" ["-p", "0x85"] device)]

/-- A copy of data in blocks of one megabyte. -/
def copy (arguments : List String) : CommandLine :=
  { program := "dd", arguments := arguments }

/-- Writes test data to the tape and compares it with what is read back; the data before and after
is kept in files of the scratch directory. -/
def readWrite (device scratch : FilePath) (megabytes : Nat) : DiagnosticSuite :=
  let pattern := (scratch.join "tape_test_data").text
  let readback := (scratch.join "tape_read_test").text
  let count := "count=" ++ toString megabytes
  { title := "Read/Write Test"
    steps := [
      require "Create test data" (copy ["if=/dev/urandom", "of=" ++ pattern, "bs=1M", count]),
      require "Write to tape" (copy ["if=" ++ pattern, "of=" ++ device.text, "bs=1M"]),
      attempt "Rewind tape" (TapeOperation.rewind.command device),
      require "Read from tape" (copy ["if=" ++ device.text, "of=" ++ readback, "bs=1M", count]),
      require "Verify data" { program := "cmp", arguments := [pattern, readback] }] }

/-- The suites of a kind that do not write to the tape. -/
def readOnlySuites (kind : SuiteKind) (device : FilePath) (settings : DiagnosticSettings) :
    List DiagnosticSuite :=
  match kind with
  | .driveStatus => [driveStatus device]
  | .tapeStatus => [tapeStatus device]
  | .position => [position device]
  | .hardware => [hardware device]
  | .loadTest => [loadTest device settings.loadSettle]
  | .seekTest => [seekTest device]
  | .logPages => [logPages device settings.logPages]
  | .errorStats => [errorStats device]
  | .firmware => [firmware device]
  | .readWrite => []
  | .full =>
    [hardware device, driveStatus device, tapeStatus device, position device,
      loadTest device settings.loadSettle, seekTest device]

/-- The suites of a kind; those that write to the tape need a scratch directory. -/
def ofKind (kind : SuiteKind) (device : FilePath) (settings : DiagnosticSettings)
    (scratch : Option FilePath) : List DiagnosticSuite :=
  readOnlySuites kind device settings ++
    match scratch with
    | some directory =>
      if kind.hasWritePart then [readWrite device directory settings.testMegabytes] else []
    | none => []

end DiagnosticSuite

end TapeAdmin
