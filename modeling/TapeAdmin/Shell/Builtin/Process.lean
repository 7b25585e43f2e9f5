import TapeAdmin.Shell.Builtin.Options
import TapeAdmin.Shell.Process

/-!
# Commands about processes

The commands of the shell that send signals, wait for jobs, and set what is done when a signal
comes.
-/

namespace TapeAdmin.Shell

namespace Builtin

open Act

/-- How `kill` is used. -/
def killUsage : Octets :=
  "Usage: kill [-s sigspec | -signum | -sigspec] [pid | job]... or\nkill -l [exitstatus]"

/-- The job that a word such as `%1` names. -/
def jobOfWord (word : Octets) : Act Nat := do
  let jobs := (← shell).jobs
  let found :=
    match word.toList with
    | ['%'] | ['%', '%'] | ['%', '+'] => jobs.getLast?
    | ['%', '-'] => jobs.dropLast.getLast?
    | '%' :: digits =>
      match Text.ofDigits? 10 digits with
      | some number => if number = 0 then none else jobs[number - 1]?
      | none => none
    | _ => none
  match found with
  | some process => return process
  | none => fail ("No such job: " ++ word)

/-- The process that a word names. -/
def processOfWord (word : Octets) : Act Nat := do
  if word.toList.head? == some '%' then jobOfWord word else number word

/-- The names of the signals, or the name of the one that an argument gives. -/
def listSignals (arguments : List Octets) : Act Nat := do
  match arguments with
  | [] =>
    say "0\n"
    for name in Signal.names.drop 1 do
      say (name ++ "\n")
    return 0
  | word :: _ =>
    let signal ← number word
    let signal := if 128 < signal then signal - 128 else signal
    if 0 < signal && signal < Signal.names.length then
      say (Signal.name signal ++ "\n")
      return 0
    else fail ("invalid signal number or exit status: " ++ word)

/-- Sends a signal to the processes that words name. -/
def sendAll (signal : Nat) : (status : Nat) → List Octets → Act Nat
  | status, [] => return status
  | status, word :: words => do
    let process ← processOfWord word
    if ← send process signal then sendAll signal status words
    else
      complain "No such process\n"
      sendAll signal 1 words

/-- The signal that the first argument of `kill` is. -/
def signalOption? (word : Octets) : Option Nat :=
  match word.toList with
  | '-' :: name => if name.isEmpty then none else Signal.ofWord? (String.ofList name)
  | _ => none

/-- `kill`. -/
def kill (arguments : List Octets) : Act Nat := do
  match arguments.head?.bind signalOption? with
  | some signal =>
    let targets := arguments.drop 1
    if targets.isEmpty then fail killUsage else sendAll signal 0 targets
  | none =>
    let (options, targets) ← takeOptions ['l'] ['s'] arguments
    if (options.lookup 'l').isSome then listSignals targets
    else
      let signal ←
        match options.lookup 's' with
        | some word =>
          match Signal.ofWord? word with
          | some signal => pure signal
          | none => fail ("invalid signal number or name: " ++ word)
        | none => pure 15
      if targets.isEmpty then fail killUsage else sendAll signal 0 targets

/-- Waits for the processes that words name, and returns the status of the last one. -/
def waitForAll : (status : Nat) → List Octets → Act Nat
  | status, [] => return status
  | _, word :: words => do
    let process ← processOfWord word
    let isOwn := (← shell).jobs.contains process
    let status ← if isOwn then waitFor process true else pure 127
    waitForAll status words

/-- `wait`. -/
def wait (arguments : List Octets) : Act Nat := do
  let (_, words) ← takeOptions [] [] arguments
  if words.isEmpty then
    for process in (← shell).jobs do
      discard (waitFor process false)
    return 0
  else waitForAll 0 words

/-- Sets what is done when the signals come that words name. -/
def trapAll (command : Option Octets) : List Octets → Act Nat
  | [] => return 0
  | word :: words => do
    match Signal.ofWord? word with
    | none =>
      discard (write 2 ("trap: " ++ word ++ ": bad trap\n"))
      return 1
    | some signal =>
      let name := Signal.name signal
      changeShell fun shell =>
        let others := shell.traps.filter fun trap => trap.1 != name
        { shell with
          traps :=
            match command with
            | some command => (name, command) :: others
            | none => others }
      trapAll command words

/-- `trap`. -/
def trap (arguments : List Octets) : Act Nat := do
  let (_, words) ← takeOptions [] [] arguments
  match words with
  | [] =>
    let traps := (← shell).traps
    for name in Signal.names do
      match traps.lookup name with
      | some command => say ("trap -- " ++ quote command ++ " " ++ name ++ "\n")
      | none => pure ()
    return 0
  | [word] => trapAll none [word]
  | first :: others =>
    if (Signal.ofWord? first).isSome then trapAll none (first :: others)
    else trapAll (if first == "-" then none else some first) others

/-- The state of a job as it is listed. -/
def jobState (now : Nat) (job : Job) : Octets :=
  if now < job.finish then "Running"
  else
    match job.ending with
    | .exited 0 => "Done"
    | .exited status => "Done(" ++ toString status ++ ")"
    | .killed signal => (Signal.obituary? signal).getD ""

/-- A job in the list of jobs; `age` is how many jobs have been started after it. -/
def jobLine (now number age : Nat) (job : Job) : Octets :=
  let mark := match age with
    | 0 => "+"
    | 1 => "-"
    | _ => " "
  let state := jobState now job
  "[" ++ toString number ++ "] " ++ mark ++ " " ++ state ++
    String.ofList (List.replicate (27 - state.length) ' ') ++ "\n"

/-- `jobs`, which lists the jobs, the last one first, and forgets those that have ended. -/
def jobs (arguments : List Octets) : Act Nat := do
  let (_, words) ← takeOptions ['l', 'p'] [] arguments
  let machine ← get
  let processes := machine.shell.jobs
  let wanted ← if words.isEmpty then pure processes else words.mapM jobOfWord
  let numbered := processes.zipIdx.reverse.zipIdx
  for ((process, index), age) in numbered do
    match machine.jobs.find? fun job => job.process == process && wanted.contains process with
    | some job =>
      say (jobLine machine.clock (index + 1) age job)
      if job.finish ≤ machine.clock then
        changeShell fun shell =>
          { shell with jobs := shell.jobs.filter fun other => other != process }
    | none => pure ()
  return 0

/-- `fg` and `bg`, for which the jobs of a script are not made. -/
def resume (arguments : List Octets) : Act Nat := do
  let (_, words) ← takeOptions [] [] arguments
  match words with
  | word :: _ => discard (jobOfWord word)
  | [] => if (← shell).jobs.isEmpty then fail "No current job"
  fail "job (null) not created under job control"

/-- `times`; commands take no time of the processor. -/
def times (_ : List Octets) : Act Nat := do
  say "0m0.000000s 0m0.000000s\n0m0.000000s 0m0.000000s\n"
  return 0

end Builtin

end TapeAdmin.Shell
