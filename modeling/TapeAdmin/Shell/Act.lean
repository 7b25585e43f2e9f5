import TapeAdmin.Shell.Machine

/-!
# What shells do

The steps that shells are made of: each changes the machine, and may be interrupted. This module
holds the steps that concern the shell itself and the time that passes.
-/

namespace TapeAdmin.Shell

/-- What a shell does. -/
abbrev Act := ExceptT Interruption (StateM Machine)

/-- The first number of a process. -/
def firstProcess : Nat := 4711

/-- A time that never comes. -/
def never : Nat := 1000000000000000000

/-- How much can be written into a pipe that nobody has read from. -/
def pipeLimit : Nat := 1 <<< 20

namespace Act

/-- The shell. -/
def shell : Act ShellState := do
  return (← get).shell

/-- Changes the shell. -/
def changeShell (change : ShellState → ShellState) : Act Unit :=
  modify fun machine => { machine with shell := change machine.shell }

/-- The status of the last command. -/
def status : Act Nat := do
  return (← get).shell.status

/-- Sets the status. -/
def setStatus (status : Nat) : Act Unit :=
  changeShell fun shell => { shell with status }

/-- Does something and then something else, also if the first is interrupted. -/
def finally' {α : Type} (act : Act α) (after : ShellState → ShellState) : Act α :=
  fun machine =>
    let (result, machine) := act machine
    (result, { machine with shell := after machine.shell })

/-- Does something, and says how it was interrupted if it was. -/
def attempt {α : Type} (act : Act α) : Act (Except Interruption α) :=
  fun machine =>
    let (result, machine) := act machine
    (.ok result, machine)

/-- Whether an option is on. -/
def isOn (option : String) : Act Bool := do
  return (← shell).options.contains option

/-- Whether an open file is an end of a pipe for writing. -/
def heldPipe? (openFiles : Array OpenFile) (descriptor : Nat × Nat) : Option Nat :=
  match openFiles[descriptor.2]? with
  | some openFile =>
    match openFile.target with
    | .pipe number => if openFile.writes then some number else none
    | _ => none
  | none => none

/-- Notes that the process holds its pipes until now. -/
def hold : Act Unit :=
  modify fun machine =>
    machine.shell.descriptors.foldl (fun machine descriptor =>
      match heldPipe? machine.openFiles descriptor with
      | some number =>
        { machine with
          pipes := machine.pipes.modify number fun pipe =>
            pipe.hold machine.shell.process machine.clock }
      | none => machine) machine

/-- Lets time pass up to a moment, if it is still to come. -/
def waitUntil (time : Nat) : Act Unit := do
  if (← get).clock < time then
    modify fun machine => { machine with clock := time }
    hold
    match (← get).deadline with
    | some deadline => if deadline ≤ time then throw .endless
    | none => if never ≤ time then throw .endless

/-- Takes one of the steps that are left. -/
def step : Act Unit := do
  match (← get).steps with
  | 0 => throw .endless
  | left + 1 => modify fun machine => { machine with steps := left }

end Act

end TapeAdmin.Shell
