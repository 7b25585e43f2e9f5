import TapeAdmin.Command.Process
import TapeAdmin.File.System
import TapeAdmin.Shell.Syntax

/-!
# The machine that shells run on

What the processes of a machine share: files, open files, pipes and a clock; and what each shell has
for itself: variables, functions, options, descriptors. Processes that run side by side are run one
after the other, each from the time at which it starts, and what they write is put in order by its
time.
-/

namespace TapeAdmin.Shell

/-- What an open file leads to. -/
inductive OpenTarget where
  /-- Nothing can be read from it, and what is written is forgotten. -/
  | nothing
  /-- Zeros can be read from it without end. -/
  | zeros
  /-- Nothing can be written for want of space. -/
  | full
  | file (place : List String)
  | directory
  | pipe (number : Nat)
  deriving DecidableEq, Repr

/-- An open file, which several descriptors of several processes can share. -/
structure OpenFile where
  target : OpenTarget
  position : Nat := 0
  /-- Whether everything is written at the end. -/
  appends : Bool := false
  reads : Bool := false
  writes : Bool := false
  deriving Repr

/-- Bytes that a process has written into a pipe. -/
structure Chunk where
  time : Nat
  process : Nat
  chars : List Char
  deriving Repr

/-- A pipe. -/
structure Pipe where
  /-- What has been written, the last chunk first. -/
  written : List Chunk := []
  /-- What is left to read, once something has been read. -/
  unread : Option (List Chunk) := none
  /-- Until when each process has held the pipe open for writing. -/
  holders : List (Nat × Nat) := []
  /-- How many bytes have been written. -/
  size : Nat := 0
  /-- Whether its writer would have gone on without end. -/
  isEndless : Bool := false
  deriving Repr

namespace Pipe

/-- Notes that a process has held a pipe until a time. -/
def hold (pipe : Pipe) (process time : Nat) : Pipe :=
  match pipe.holders.lookup process with
  | some before =>
    if before < time then
      { pipe with
        holders := (process, time) :: pipe.holders.filter fun entry => entry.1 != process }
    else pipe
  | none => { pipe with holders := (process, time) :: pipe.holders }

/-- The chunks of a pipe that are still to be read, in the order of their times. -/
def left (pipe : Pipe) : List Chunk :=
  match pipe.unread with
  | some chunks => chunks
  | none => pipe.written.reverse.mergeSort fun first second => first.time ≤ second.time

/-- When the last holder of a pipe lets go of it. -/
def closes (pipe : Pipe) : Nat :=
  pipe.holders.foldl (fun time holder => max time holder.2) 0

/-- A pipe without what a process would have written to it after a moment. -/
def cut (pipe : Pipe) (process now : Nat) : Pipe :=
  { pipe with
    written := pipe.written.filter fun chunk => chunk.process != process || chunk.time ≤ now
    holders := pipe.holders.map fun (holder, time) =>
      (holder, if holder == process then min time now else time) }

end Pipe

/-- A process in the background. -/
structure Job where
  process : Nat
  /-- When it ends. -/
  finish : Nat
  ending : ProcessEnd
  deriving Repr

/-- A variable of a shell. -/
structure Variable where
  value : Option Octets := none
  exported : Bool := false
  readOnly : Bool := false
  deriving DecidableEq, Repr

/-- Why a command does not go on to the next one. -/
inductive Interruption where
  /-- Leaves loops. -/
  | leave (loops : Nat)
  /-- Goes on with the next round of a loop. -/
  | nextRound (loops : Nat)
  | returned
  /-- The process ends with the status that the shell has. -/
  | exited
  /-- An error ends the process unless a command catches it. -/
  | failed
  | killed (signal : Nat)
  /-- The process does not end, or not in time. -/
  | endless
  deriving DecidableEq, Repr

/-- A function of a shell. -/
structure ShellFunction where
  line : Nat
  body : Command

/-- What a shell has for itself. -/
structure ShellState where
  /-- The name by which messages call the shell. -/
  name : Octets := "sh"
  arguments : List Octets := []
  bindings : List (Octets × Variable) := []
  /-- For each function that runs, the variables that it hides, as they were. -/
  hidden : List (List (Octets × Option Variable)) := []
  functions : List (Octets × ShellFunction) := []
  aliases : List (Octets × Octets) := []
  /-- The options that are on, by their names. -/
  options : List String := []
  directory : List String := []
  /-- The open files that descriptors stand for. -/
  descriptors : List (Nat × Nat) := []
  /-- The commands for signals, by their names; an empty command ignores its signal. -/
  traps : List (String × Octets) := []
  /-- The signals that have come and whose commands have not run yet. -/
  caught : List String := []
  status : Nat := 0
  line : Nat := 1
  /-- The command of the shell that runs, as messages name it. -/
  caller : Option Octets := none
  /-- How many loops are around the command. -/
  loops : Nat := 0
  /-- How many functions are around the command. -/
  calls : Nat := 0
  jobs : List Nat := []
  lastJob : Option Nat := none
  process : Nat := 0
  /-- The process that the shell was before it split. -/
  shellProcess : Nat := 0
  parentProcess : Nat := 0
  /-- The texts of the documents in the script. -/
  documents : List (Nat × Word) := []
  nextDocument : Nat := 0
  /-- The status from before the command for a signal that runs. -/
  trapped : Option Nat := none
  /-- The status of the last command in a word. -/
  substituted : Option Nat := none
  /-- The permissions that new files do not get. -/
  mask : Nat := 18
  /-- Where in a word of options the next one is. -/
  optionOffset : Nat := 0
  /-- What the command that runs has written and not sent yet. -/
  buffer : Octets := ""

/-- The machine. -/
structure Machine where
  shell : ShellState := {}
  files : FileSystem
  openFiles : Array OpenFile := #[]
  pipes : Array Pipe := #[]
  jobs : List Job := []
  clock : Nat := 0
  /-- What happens from this time on does not matter. -/
  deadline : Option Nat := none
  /-- How many more commands are run. -/
  steps : Nat
  /-- The number of the last process. -/
  lastProcess : Nat := 0
  /-- Signals that processes have not noticed yet. -/
  signals : List (Nat × Nat) := []

end TapeAdmin.Shell
