import TapeAdmin.Shell.Evaluation

/-!
# Starting programs

What becomes of a command on a host that has nothing but the common tools and the shell. A program
without a slash in its name is looked for among the tools; any other name is a path.
-/

namespace TapeAdmin

namespace Shell

/-- How deep commands can be nested, called and read. -/
def depth : Nat := 1000000000

/-- How many commands are run before a program counts as one that does not end in time. -/
def stepLimit : (deadline : Option Nat) → Nat
  | none => 1000000
  | some deadline => min 1000000 (100000 + 2000 * deadline)

/-- The files that every host has. -/
def hostFiles : List (List String) :=
  let tools := "sh" :: Tool.all.map Prod.fst
  [["etc", "group"], ["etc", "hosts"], ["etc", "passwd"]] ++
    tools.flatMap fun tool => [["bin", tool], ["usr", "bin", tool]]

/-- The files of a host, with those that every host has. -/
def withHostFiles (files : FileSystem) : FileSystem :=
  let others := hostFiles.filter fun place => (files.entry? place).isNone
  { files with places := files.places ++ others.map fun place => (place, .file []) }

/-- The variables that programs find. -/
def environment : List (Octets × Variable) :=
  [("HOME", "/root"), ("PATH", "/usr/local/sbin:/usr/local/bin:/usr/sbin:/usr/bin:/sbin:/bin")].map
    fun (name, value) => (name, { value := some value, exported := true })

/-- A machine on which one process starts: it has nothing to read, and writes into two pipes. -/
def Machine.start (files : FileSystem) (deadline : Option Nat) : Machine :=
  { files := withHostFiles files
    deadline
    steps := stepLimit deadline
    lastProcess := firstProcess
    pipes := #[{}, {}]
    openFiles := #[
      { target := .nothing, reads := true },
      { target := .pipe 0, writes := true },
      { target := .pipe 1, writes := true }]
    shell := {
      bindings := environment
      directory := files.workingDirectory
      descriptors := [(0, 0), (1, 1), (2, 2)]
      process := firstProcess
      shellProcess := firstProcess
      parentProcess := firstProcess - 1 } }

/-- What has been written into a pipe. -/
def Machine.written (machine : Machine) (number : Nat) : List UInt8 :=
  match machine.pipes[number]? with
  | some pipe => pipe.left.flatMap fun chunk => chunk.chars.map fun char => UInt8.ofNat char.toNat
  | none => []

/-- What a tool does on a machine from its start to its end. -/
def runTool (files : FileSystem) (deadline : Option Nat) (tool name : Octets)
    (arguments : List Octets) : ProcessRun :=
  let act : Act ProcessEnd := do
    let ending ← Act.toEnd (Evaluation.finish depth) (Evaluation.start depth tool name arguments)
    Act.hold
    return ending
  let (result, machine) := act.run (Machine.start files deadline)
  let closes := (machine.pipes.toList.take 2).foldl (fun time pipe => max time pipe.closes) 0
  let (ending, duration) :=
    match result with
    | .ok ending => (ending, max machine.clock closes)
    | .error _ => (.exited 0, never)
  { stdout := machine.written 0, stderr := machine.written 1, ending, duration }

/-- The directories in which the tools are. -/
def toolName (program : Octets) : Octets :=
  (Tool.atPath? program).getD program

/-- Why a path that is no tool cannot be started: nothing else is executable. -/
def refusal (files : FileSystem) (path : FilePath) : SystemError :=
  match files.find path with
  | .ok _ => .accessDenied
  | .error error => error

/-- Starts a command. -/
def launch (files : FileSystem) (command : CommandLine) : Except SystemError ProcessRun :=
  if command.holdsNul then .error .nulInProgram
  else
    let program := Octets.ofText command.program
    let tool := toolName program
    if Target.isTool tool then
      .ok (runTool files command.timeout tool program (command.arguments.map Octets.ofText))
    else if command.program.toList.contains '/' then .error (refusal files ⟨command.program⟩)
    else if command.program == "." || command.program == ".." then .error .accessDenied
    else if FileSystem.nameLimit < command.program.utf8ByteSize then .error .nameTooLong
    else .error .notFound

end Shell

/-- The outcome of a command on a host that has nothing but the common tools. -/
def CommandLine.runOn (files : FileSystem) (command : CommandLine) : CommandOutput :=
  command.outcome (Shell.launch files command)

end TapeAdmin
