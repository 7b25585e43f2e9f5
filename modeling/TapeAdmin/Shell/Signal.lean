import TapeAdmin.Shell.Environment

/-!
# Signals

The signals that processes send each other, what they do to a process, and the commands that a shell
runs for them.
-/

namespace TapeAdmin.Shell

namespace Signal

/-- The names of the signals, from number zero on; the first stands for the end of a shell. -/
def names : List String := [
  "EXIT", "HUP", "INT", "QUIT", "ILL", "TRAP", "ABRT", "BUS", "FPE", "KILL", "USR1", "SEGV", "USR2",
  "PIPE", "ALRM", "TERM", "STKFLT", "CHLD", "CONT", "STOP", "TSTP", "TTIN", "TTOU", "URG", "XCPU",
  "XFSZ", "VTALRM", "PROF", "WINCH", "IO", "PWR", "SYS", "32", "33", "RTMIN", "RTMIN+1", "RTMIN+2",
  "RTMIN+3", "RTMIN+4", "RTMIN+5", "RTMIN+6", "RTMIN+7", "RTMIN+8", "RTMIN+9", "RTMIN+10",
  "RTMIN+11", "RTMIN+12", "RTMIN+13", "RTMIN+14", "RTMIN+15", "RTMAX-14", "RTMAX-13", "RTMAX-12",
  "RTMAX-11", "RTMAX-10", "RTMAX-9", "RTMAX-8", "RTMAX-7", "RTMAX-6", "RTMAX-5", "RTMAX-4",
  "RTMAX-3", "RTMAX-2", "RTMAX-1", "RTMAX"]

/-- The name of a signal. -/
def name (signal : Nat) : String :=
  names[signal]?.getD (toString signal)

/-- The signal that a word names, by its number or its name. -/
def ofWord? (word : Octets) : Option Nat :=
  match Text.ofDigits? 10 word.toList with
  | some number => if number < names.length then some number else none
  | none =>
    let upper := String.ofList (word.toList.map Char.toUpper)
    names.findIdx? fun name => name == upper

/-- What is said of a process that a signal has ended; of some nothing is said. -/
def obituary? (signal : Nat) : Option String :=
  match signal with
  | 1 => some "Hangup"
  | 2 | 13 => none
  | 3 => some "Quit"
  | 4 => some "Illegal instruction"
  | 5 => some "Trace/breakpoint trap"
  | 6 => some "Aborted"
  | 7 => some "Bus error"
  | 8 => some "Floating point exception"
  | 9 => some "Killed"
  | 10 => some "User defined signal 1"
  | 11 => some "Segmentation fault"
  | 12 => some "User defined signal 2"
  | 14 => some "Alarm clock"
  | 15 => some "Terminated"
  | 16 => some "Stack fault"
  | 24 => some "CPU time limit exceeded"
  | 25 => some "File size limit exceeded"
  | 26 => some "Virtual timer expired"
  | 27 => some "Profiling timer expired"
  | 29 => some "I/O possible"
  | 30 => some "Power failure"
  | 31 => some "Bad system call"
  | other => some ("Real-time signal " ++ toString (other - 34))

/-- The signals that do nothing to a process. -/
def harmless : List Nat := [0, 17, 18, 23, 28]

/-- The signals that stop a process until it is told to go on. -/
def stopping : List Nat := [19, 20, 21, 22]

/-- The signals that a process cannot do anything about. -/
def inescapable : List Nat := [9, 19]

end Signal

/-- A job after a signal has reached it. -/
def Job.cut (job : Job) (signal now : Nat) : Job :=
  if now < job.finish && !Signal.harmless.contains signal then
    { job with finish := now, ending := .killed signal }
  else job

namespace Act

/-- Lets a signal have its effect on the process that runs. -/
def receive (signal : Nat) : Act Unit := do
  let shell ← shell
  let traps := if Signal.inescapable.contains signal then [] else shell.traps
  match traps.lookup (Signal.name signal) with
  | some command =>
    if !command.isEmpty && !shell.caught.contains (Signal.name signal) then
      changeShell fun shell => { shell with caught := shell.caught ++ [Signal.name signal] }
  | none =>
    if Signal.harmless.contains signal then return ()
    else if Signal.stopping.contains signal then throw .endless
    else throw (.killed signal)

/-- Lets the signals have their effect that have been sent to the process that runs. -/
def receiveAll : Act Unit := do
  let machine ← get
  let (own, others) := machine.signals.partition fun entry => entry.1 == machine.shell.process
  if !own.isEmpty then
    set { machine with signals := others }
    for (_, signal) in own do
      receive signal

/-- Sends a signal to a process, and says whether there is such a process. -/
def send (process signal : Nat) : Act Bool := do
  let machine ← get
  if process == machine.shell.process then
    receive signal
    return true
  else
    match machine.jobs.find? fun job => job.process == process with
    | some job =>
      if machine.shell.jobs.contains process || machine.clock < job.finish then
        if machine.clock < job.finish && !Signal.harmless.contains signal then
          modify fun machine => { machine with
            jobs := machine.jobs.map fun other =>
              if other.process == process then other.cut signal machine.clock else other
            pipes := machine.pipes.map fun pipe => pipe.cut process machine.clock }
        return true
      else return false
    | none =>
      if process == machine.shell.shellProcess || process == machine.shell.parentProcess then
        set { machine with signals := machine.signals ++ [(process, signal)] }
        return true
      else return false

end Act

end TapeAdmin.Shell
