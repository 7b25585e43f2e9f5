import TapeAdmin.Shell.Signal

/-!
# Processes

Runs acts in processes of their own: what such a process changes in its shell is lost when it ends,
and what it does to the machine remains.
-/

namespace TapeAdmin.Shell

/-- The status by which a shell knows how a process has ended. -/
def statusOf : ProcessEnd → Nat
  | .exited status => status
  | .killed signal => 128 + signal

/-- The last eight binary digits of a status, which is what remains of it when a process ends. -/
def exitStatus (status : Nat) : Nat :=
  status % 256

namespace Act

/-- The traps that a new process keeps: those that ignore a signal. -/
def keptTraps (traps : List (String × Octets)) : List (String × Octets) :=
  traps.filter fun trap => trap.2.isEmpty && trap.1 != "EXIT"

/-- A shell as it starts in a process of its own. -/
def split (process : Nat) (shell : ShellState) : ShellState :=
  { shell with
    process
    parentProcess := shell.process
    traps := keptTraps shell.traps
    caught := []
    jobs := []
    buffer := "" }

/-- How an act ends the process that it is all of; `finish` is done before the process ends of its
own accord. -/
def toEnd (finish : Act Unit) (act : Act Unit) : Act ProcessEnd := do
  let ended : Act ProcessEnd := do
    match ← attempt finish with
    | .error (.killed signal) => return .killed signal
    | .error .endless => throw .endless
    | _ => return .exited (exitStatus (← status))
  match ← attempt act with
  | .error (.killed signal) => return .killed signal
  | .error .endless => throw .endless
  | _ => ended

/-- Runs an act in a new process. -/
def inProcess (finish : Act Unit) (act : Act Unit) : Act ProcessEnd := do
  let outer ← shell
  let process := (← get).lastProcess + 1
  modify fun machine => { machine with lastProcess := process, shell := split process outer }
  let result ← attempt (toEnd finish act)
  changeShell fun _ => outer
  hold
  match result with
  | .ok ending => return ending
  | .error interruption => throw interruption

/-- Says on the errors how a process has ended if a signal has ended it. -/
def mourn (ending : ProcessEnd) : Act Unit := do
  match ending with
  | .killed signal =>
    match Signal.obituary? signal with
    | some text => discard (write 2 (text ++ "\n"))
    | none => return ()
  | .exited _ => return ()

/-- Waits for a process that has been run, and takes over its status. -/
def takeOver (ending : ProcessEnd) : Act Unit := do
  mourn ending
  setStatus (statusOf ending)
  receiveAll

/-- Runs an act in a process in the background, from now on. -/
def inBackground (finish : Act Unit) (act : Act Unit) : Act Unit := do
  let outer ← shell
  let start := (← get).clock
  let process := (← get).lastProcess + 1
  let nothing ← addOpenFile { target := .nothing, reads := true }
  let inner : Act Unit := do
    assignDescriptor 0 (some nothing)
    act
  let result ← attempt (inProcess finish inner)
  let (ending, time) : ProcessEnd × Nat ←
    match result with
    | .ok ending => pure (ending, (← get).clock)
    | .error _ =>
      modify fun machine => { machine with clock := never, shell := { outer with process } }
      hold
      changeShell fun _ => outer
      pure (.exited 0, never)
  modify fun machine => { machine with
    clock := start
    jobs := ⟨process, time, ending⟩ :: machine.jobs
    shell := { machine.shell with
      jobs := machine.shell.jobs ++ [process], lastJob := some process, status := 0 } }

/-- Waits for a job of the shell, and returns its status. -/
def waitFor (process : Nat) (mourned : Bool) : Act Nat := do
  match (← get).jobs.find? fun job => job.process == process with
  | some job =>
    waitUntil job.finish
    changeShell fun shell => { shell with jobs := shell.jobs.filter fun other => other != process }
    if mourned then mourn job.ending
    return statusOf job.ending
  | none => return 127

/-- Runs an act with the steps that are left, or with half of them. -/
def withHalf {α : Type} (isHalved : Bool) (act : Act α) : Act α := do
  if isHalved then
    let kept := (← get).steps / 2
    modify fun machine => { machine with steps := machine.steps - kept }
    let result ← attempt act
    modify fun machine => { machine with steps := machine.steps + kept }
    match result with
    | .ok value => return value
    | .error interruption => throw interruption
  else act

/--
Runs acts side by side, each of which reads what the one before it writes, and returns how they
ended. All of them start at the same time; `input` is the open file that the first one reads, if it
is not the one of the shell. An act that never ends is ended by the one after it, if that does not
wait for more.
-/
def inPipeline (finish : Act Unit) (start : Nat) (input : Option Nat) :
    List (Act Unit) → Act (List ProcessEnd)
  | [] => return []
  | act :: acts => do
    modify fun machine => { machine with clock := start }
    let output ← if acts.isEmpty then pure none else some <$> addPipe
    let inner : Act Unit := do
      if input.isSome then assignDescriptor 0 input
      match output with
      | some (_, _, writing) => assignDescriptor 1 (some writing)
      | none => pure ()
      act
    let ending ←
      match ← attempt (withHalf output.isSome (inProcess finish inner)) with
      | .ok ending => pure ending
      | .error interruption =>
        match output with
        | some (number, _, _) =>
          let written := (((← get).pipes[number]?).map Pipe.size).getD 0
          if written == 0 then throw interruption
          else
            modify fun machine => { machine with
              clock := start
              pipes := machine.pipes.modify number fun pipe => { pipe with isEndless := true } }
            pure (.killed 13)
        | none => throw interruption
    let time := (← get).clock
    let endings ← inPipeline finish start (output.map fun pipe => pipe.2.1) acts
    modify fun machine => { machine with clock := max machine.clock time }
    return ending :: endings

/-- What an act writes in a process of its own, without the line feeds at its end. -/
def outputOf (finish : Act Unit) (act : Act Unit) : Act Octets := do
  let (number, _, writing) ← addPipe
  let inner : Act Unit := do
    assignDescriptor 1 (some writing)
    act
  let ending ← inProcess finish inner
  changeShell fun shell => { shell with substituted := some (statusOf ending) }
  mourn ending
  match (← get).pipes[number]? with
  | some pipe =>
    if pipe.isEndless then throw .endless
    waitUntil (pipe.closes)
    receiveAll
    let written := (pipe.left.map Chunk.chars).flatten
    let chars := (written.filter (· != '\x00')).reverse.dropWhile (· == '\n')
    return String.ofList chars.reverse
  | none => return ""

end Act

end TapeAdmin.Shell
