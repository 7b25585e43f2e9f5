import TapeAdmin.Shell.Invocation
import TapeAdmin.Shell.Loop
import TapeAdmin.Shell.Process

/-!
# Running commands

Runs the commands of scripts. The functions that run commands call each other as deep as commands
are nested, called and read; `fuel` bounds that depth.
-/

namespace TapeAdmin.Shell

/-- What is known of the command after the one that runs. -/
structure Manner where
  /-- The status decides which command is next, and so does not end the shell. -/
  tested : Bool := false
  /-- There is none, so that a tool can take the place of the process. -/
  final : Bool := false

/-- A command that is the last one of a process. -/
def Manner.last (manner : Manner) : Manner := { manner with final := true }

/-- A command that is not the last one of a process. -/
def Manner.inner (manner : Manner) : Manner := { manner with final := false }

/-- A command whose status decides which one is next. -/
def Manner.question : Manner := { tested := true }

namespace Evaluation

open Act

/-- Ends the shell after a command that has failed, if the shell is told to. -/
def checkStatus (manner : Manner) : Act Unit := do
  if !manner.tested && (← status) != 0 && (← isOn "errexit") then throw .exited

/-- Sends what a command of the shell has written, and returns the status if that fails. -/
def flush (name : Octets) : Act Nat := do
  let text := (← shell).buffer
  changeShell fun shell => { shell with buffer := "" }
  if text.isEmpty then return 0
  else
    match ← write 1 text with
    | .ok () => return 0
    | .error _ =>
      complain (name ++ ": I/O error")
      return 1

/-- Runs a command of the shell: what it writes is sent when it is over, and its messages name it.
-/
def inBuiltin (name : Octets) (isSpecial : Bool) (act : Act Nat) : Act Unit := do
  let outer ← shell
  changeShell fun shell => { shell with caller := some name, buffer := "" }
  let result ← attempt act
  let fault ← flush name
  changeShell fun shell => { shell with caller := outer.caller, buffer := outer.buffer }
  match result with
  | .ok status => setStatus (status ||| fault)
  | .error .failed => if isSpecial then throw .failed
  | .error interruption => throw interruption

/-- Puts a status that an argument gives in place of the one that the shell has. -/
def takeStatus (arguments : List Octets) (otherwise : Nat) : Act Unit := do
  match arguments with
  | [] => setStatus otherwise
  | word :: _ => setStatus (← Builtin.number word)

/-- How many loops an argument of `break` or `continue` names. -/
def loopCount (arguments : List Octets) : Act Nat := do
  match arguments with
  | [] => return 1
  | word :: _ =>
    let count ← Builtin.number word
    if count = 0 then fail ("Illegal number: " ++ word) else return count

/-- `break` and `continue`, which do nothing outside of loops. -/
def leaveLoops (interruption : Nat → Interruption) (arguments : List Octets) : Act Nat := do
  let count ← loopCount arguments
  let loops := (← shell).loops
  if loops = 0 then return 0
  else
    setStatus 0
    throw (interruption (min count loops))

/-- Calls a function; `act` runs its body. -/
def call (arguments : List Octets) (act : Act Unit) : Act Unit := do
  let outer ← shell
  if 1000 ≤ outer.calls then fail "Maximum function recursion depth (1000) reached"
  else
    changeShell fun shell =>
      { shell with arguments, calls := outer.calls + 1, loops := 0, optionOffset := 0 }
    let result ← attempt (withHidden act)
    changeShell fun shell =>
      { shell with
        arguments := outer.arguments
        calls := outer.calls
        loops := outer.loops
        optionOffset := outer.optionOffset }
    match result with
    | .ok () | .error .returned => return ()
    | .error interruption => throw interruption

/-- Gives variables values. Without `hidden`, they keep them; otherwise only until the command is
over, and the tools that it runs see them. Returns the assignments as they are shown. -/
def assignAll (substitute : Substitute) (hidden : Bool) :
    List (Octets × Word) → Act (List Octets)
  | [] => return []
  | (name, word) :: assignments => do
    let value ← Expansion.assignedText substitute word
    if hidden then
      hide name
      assign name value
      putVariable name ((← variableNamed? name).map fun entry => { entry with exported := true })
    else assign name value
    return (name ++ "=" ++ value) :: (← assignAll substitute hidden assignments)

/-- Shows a command before it runs, if the shell is told to. -/
def trace (errors : Option Nat) (words : List Octets) : Act Unit := do
  if ← isOn "xtrace" then
    let text := (← value? "PS4").getD "" ++ String.intercalate " " words ++ "\n"
    match errors with
    | some number =>
      match (← get).openFiles[number]? with
      | some openFile => discard (writeInto number openFile text)
      | none => return ()
    | none => return ()

/-- The file that `.` reads: the one with the path, or one in the directories for commands. -/
def scriptPath (word : Octets) : Act Octets := do
  if word.toList.contains '/' then return word
  else
    let files ← files
    let directories := ((← value? "PATH").getD "").splitOn ":"
    let paths := directories.map fun directory =>
      if directory.isEmpty then word else directory ++ "/" ++ word
    let isFile (path : Octets) : Bool :=
      match Redirection.find files (Octets.path path) with
      | .ok (_, some (.file _)) => true
      | _ => false
    match paths.find? isFile with
    | some path => return path
    | none => fail (word ++ ": not found")

/-- The text of a script in a file. -/
def scriptText (word path : Octets) : Act Octets := do
  match ← Tool.content path with
  | .ok text => return text
  | .error .isDirectory => return ""
  | .error error => fail ("cannot open " ++ word ++ ": " ++ reasonText "No such file" error)

/-- A shell as it starts as a program of its own; it knows what the process before it has exported,
and ignores the signals that the process ignores. -/
def started (outer : ShellState) (name : Octets) : ShellState :=
  let exported := outer.bindings.filter fun entry => entry.2.exported && entry.2.value.isSome
  let own : List (Octets × Octets) := [
    ("IFS", " \t\n"), ("OPTIND", "1"), ("PS1", "# "), ("PS2", "> "), ("PS4", "+ "),
    ("PPID", toString outer.parentProcess),
    ("PWD", Builtin.placeText outer.directory)]
  let bindings := own.foldl (fun bindings (name, value) =>
    let before := (bindings.lookup name).getD {}
    (name, { before with value := some value }) ::
      bindings.filter fun entry => entry.1 != name) (exported.map fun entry =>
        (entry.1, { entry.2 with readOnly := false }))
  { name
    bindings
    directory := outer.directory
    descriptors := outer.descriptors
    traps := keptTraps outer.traps
    line := 0
    process := outer.process
    shellProcess := outer.process
    parentProcess := outer.parentProcess
    mask := outer.mask }

/-- What a shell reads as its script. -/
structure Startup where
  text : Octets
  isFile : Bool := true
  arguments : List Octets
  /-- By which name the shell calls itself, if the script gives it one. -/
  name : Option Octets := none

/-- Takes the options of a shell, and finds its script. -/
def startup (arguments : List Octets) : Act Startup := do
  let isOther (letter : Char) : Bool := letter == 'c' || letter == 'l'
  let (letters, words, _) ← Builtin.takeShellOptions isOther arguments
  if ← isOn "interactive" then Builtin.setOption "monitor" true
  Builtin.refuseMonitor
  if letters.contains 'c' then
    match words with
    | [] => fail "-c requires an argument"
    | [text] => return { text, isFile := false, arguments := [] }
    | text :: name :: arguments => return { text, isFile := false, arguments, name }
  else if ← isOn "stdin" then
    return { text := (← standardText), arguments := words }
  else
    match words with
    | [] =>
      Builtin.setOption "stdin" true
      return { text := (← standardText), arguments := [] }
    | path :: arguments => return { text := (← scriptText path path), arguments, name := path }
where
  /-- The text of the standard input. -/
  standardText : Act Octets := do
    match ← read 0 .all with
    | .ok text => return text
    | .error _ => return ""

mutual

/-- Runs a command. -/
def run : Nat → Manner → Command → Act Unit
  | 0, _, _ => throw .endless
  | fuel + 1, manner, command => do
    if ← isOn "noexec" then return ()
    match command with
    | .simple line assignments words redirects =>
      simple fuel manner line assignments words redirects
      settle fuel manner
    | .pipeline commands =>
      let endings ← inPipeline (finish fuel) (← get).clock none
        (commands.map fun command => run fuel manner.last command)
      endings.forM mourn
      setStatus ((endings.getLast?.map statusOf).getD 0)
      receiveAll
      settle fuel manner
    | .negation command =>
      run fuel .question command
      setStatus (if (← status) = 0 then 1 else 0)
    | .both first second =>
      run fuel .question first
      if (← status) = 0 then run fuel manner second
    | .either first second =>
      run fuel .question first
      if (← status) != 0 then run fuel manner second
    | .sequence commands => runAll fuel manner commands
    | .background command => inBackground (finish fuel) (run fuel { final := true } command)
    | .subshell line body redirects =>
      subshell fuel manner line body redirects
      settle fuel manner
    | .redirected line body redirects =>
      changeShell fun shell => { shell with line }
      let before ← shell
      let redirections ← redirects.mapM (Redirect.resolve (substitution fuel))
      let act : Act Manner := do
        match ← Redirection.applyAll false redirections with
        | .ok () =>
          run fuel manner.inner body
          return .question
        | .error message =>
          complain message
          setStatus 2
          return manner
      settle fuel (← finally' act (Redirection.undo before redirections))
    | .conditional condition whenTrue otherwise =>
      run fuel .question condition
      if (← status) = 0 then run fuel manner whenTrue
      else
        match otherwise with
        | some otherwise => run fuel manner otherwise
        | none => setStatus 0
    | .loop kind condition body =>
      let goesOn : Act Bool := do
        step
        run fuel .question condition
        return ((← status) == 0) == (kind == .whileTrue)
      setStatus (← inLoop (repeatWhile goesOn (run fuel manner.inner body) (← get).steps 0))
    | .each line name words body =>
      changeShell fun shell => { shell with line }
      let texts ←
        match words with
        | some words => Expansion.allWords (substitution fuel) words
        | none => pure (← shell).arguments
      let round (text : Octets) : Act Unit := do
        assign name text
        run fuel manner.inner body
      setStatus (← inLoop (forEach round 0 texts))
    | .choice line subject arms =>
      changeShell fun shell => { shell with line }
      let text ← Expansion.text (substitution fuel) subject
      choose fuel manner text.toList arms
    | .function line name body =>
      changeShell fun shell =>
        { shell with
          functions := (name, ⟨line, body⟩) :: shell.functions.filter fun entry => entry.1 != name
          status := 0 }

/-- Does what is to be done after a command: runs the commands for signals, and ends the shell if it
is to end after the status. -/
def settle : Nat → Manner → Act Unit
  | 0, _ => throw .endless
  | fuel + 1, manner => do
    runCaught fuel
    checkStatus manner

/-- Runs commands one after the other. -/
def runAll : Nat → Manner → List Command → Act Unit
  | 0, _, _ => throw .endless
  | _, _, [] => return ()
  | fuel + 1, manner, [command] => run fuel manner command
  | fuel + 1, manner, command :: commands => do
    run fuel manner.inner command
    runAll fuel manner commands

/-- Runs the commands of the first arm with a pattern that a text fits. -/
def choose : Nat → Manner → List Char → List (List Word × Command) → Act Unit
  | 0, _, _, _ => throw .endless
  | _, _, _, [] => setStatus 0
  | fuel + 1, manner, text, (patterns, body) :: arms => do
    if ← fitsAny fuel text patterns then
      match body with
      | .sequence [] => setStatus 0
      | _ => run fuel manner body
    else choose fuel manner text arms

/-- Whether a text fits one of several patterns. -/
def fitsAny : Nat → List Char → List Word → Act Bool
  | 0, _, _ => throw .endless
  | _, _, [] => return false
  | fuel + 1, text, word :: words => do
    let pattern ← Expansion.pattern (substitution fuel) word
    if pattern.fits text then return true else fitsAny fuel text words

/-- What a command in a word writes. -/
def substitution : Nat → Substitute
  | 0, _ => throw .endless
  | fuel + 1, command =>
    match command with
    | .sequence [] => return ""
    | _ => outputOf (finish fuel) (run fuel { final := true } command)

/-- Runs commands in a process of their own, or in this one if it has nothing else to do. -/
def subshell : Nat → Manner → Nat → Command → List Redirect → Act Unit
  | 0, _, _, _, _ => throw .endless
  | fuel + 1, manner, line, body, redirects => do
    changeShell fun shell => { shell with line }
    let redirections ← redirects.mapM (Redirect.resolve (substitution fuel))
    let act : Act Unit := do
      match ← Redirection.applyAll true redirections with
      | .ok () => run fuel manner.last body
      | .error message => fail message
    if manner.final && (← shell).traps.isEmpty then
      act
      throw .exited
    else takeOver (← inProcess (finish fuel) act)

/-- Runs the commands for the signals that have come. -/
def runCaught : Nat → Act Unit
  | 0 => throw .endless
  | fuel + 1 => do
    let outer ← shell
    match outer.caught with
    | [] => return ()
    | name :: others =>
      let before := outer.trapped.getD outer.status
      changeShell fun shell => { shell with caught := others, trapped := some before }
      match outer.traps.lookup name with
      | some text => discard (script fuel {} false { rest := text.toList })
      | none => pure ()
      changeShell fun shell => { shell with status := before, trapped := outer.trapped }
      runCaught fuel

/-- Runs the command for the end of the shell; the shell keeps its status unless the command ends
it. -/
def finish : Nat → Act Unit
  | 0 => throw .endless
  | fuel + 1 => do
    let outer ← shell
    match outer.traps.lookup "EXIT" with
    | none => return ()
    | some text =>
      changeShell fun shell =>
        { shell with
          traps := shell.traps.filter fun trap => trap.1 != "EXIT"
          trapped := some outer.status }
      match ← attempt (script fuel {} false { rest := text.toList }) with
      | .ok _ | .error .returned => setStatus outer.status
      | .error .exited | .error .failed => return ()
      | .error interruption => throw interruption

/-- Runs the commands of a script, and returns the status of the last one; `hasRun` says whether
there has been one. -/
def script : Nat → Manner → (hasRun : Bool) → Source → Act Nat
  | 0, _, _, _ => throw .endless
  | fuel + 1, manner, hasRun, source => do
    let shell ← shell
    let source :=
      { source with
        aliases := shell.aliases, documents := [], nextDocument := shell.nextDocument }
    match source.nextCommand? with
    | .error (line, fault) =>
      changeShell fun shell => { shell with line }
      fail ("Syntax error: " ++ fault.message)
    | .ok (none, _) => if hasRun then status else return 0
    | .ok (some command, after) =>
      if source.isFile && (← isOn "verbose") then
        let read := source.rest.take (source.rest.length - after.rest.length)
        discard (write 2 (String.ofList read))
      changeShell fun shell =>
        { shell with
          documents := after.documents ++ shell.documents, nextDocument := after.nextDocument }
      run fuel manner.inner command
      script fuel manner true after

/-- Runs a command of words. -/
def simple : Nat → Manner → Nat → List (Octets × Word) → List Word → List Redirect → Act Unit
  | 0, _, _, _, _, _ => throw .endless
  | fuel + 1, manner, line, assignments, words, redirects => do
    step
    changeShell fun shell => { shell with line, substituted := none }
    let texts ← Invocation.expand (substitution fuel) none words
    let redirections ← redirects.mapM (Redirect.resolve (substitution fuel))
    let before ← shell
    match texts with
    | [] =>
      let act : Act Unit := do
        match ← Redirection.applyAll false redirections with
        | .ok () =>
          let shown ← assignAll (substitution fuel) false assignments
          trace (before.descriptors.lookup 2) shown
          setStatus ((← shell).substituted.getD 0)
        | .error message =>
          complain message
          setStatus 2
      finally' act (Redirection.undo before redirections)
    | name :: arguments =>
      let invocation ← Invocation.find false texts.length name arguments
      let act : Act Unit := do
        match ← Redirection.applyAll false redirections with
        | .ok () =>
          if invocation.isSpecial then
            let shown ← assignAll (substitution fuel) false assignments
            trace (before.descriptors.lookup 2) (shown ++ texts)
            invoke fuel manner invocation
          else if assignments.isEmpty then
            trace (before.descriptors.lookup 2) texts
            invoke fuel manner invocation
          else
            withHidden do
              let shown ← assignAll (substitution fuel) true assignments
              trace (before.descriptors.lookup 2) (shown ++ texts)
              invoke fuel manner invocation
        | .error message =>
          complain message
          setStatus 2
          if invocation.isSpecial then throw .failed
      if invocation.keepsRedirections then act
      else finally' act (Redirection.undo before redirections)

/-- Runs what an invocation names. -/
def invoke : Nat → Manner → Invocation → Act Unit
  | 0, _, _ => throw .endless
  | fuel + 1, manner, invocation => do
    let name := invocation.name
    let target ←
      match invocation.target with
      | .missing | .denied => Target.amongTools name
      | target => pure target
    match target with
    | .missing =>
      complain (name ++ ": not found")
      setStatus 127
    | .denied =>
      complain (name ++ ": Permission denied")
      setStatus (if name.isEmpty then 127 else 126)
    | .function definition =>
      call invocation.arguments (run fuel manner.inner definition.body)
    | .special | .ordinary =>
      inBuiltin name invocation.isSpecial (builtin fuel manner name invocation.arguments)
    | .tool _ tool =>
      let act := start fuel tool name invocation.arguments
      if manner.final && (← shell).traps.isEmpty then
        match ← toEnd (finish fuel) act with
        | .killed signal => throw (.killed signal)
        | .exited status =>
          setStatus status
          throw .exited
      else takeOver (← inProcess (finish fuel) act)

/-- Runs a command of the shell, and returns its status. -/
def builtin : Nat → Manner → Octets → List Octets → Act Nat
  | 0, _, _, _ => throw .endless
  | fuel + 1, manner, name, arguments => do
    match name with
    | "eval" =>
      script fuel manner.inner false { rest := (String.intercalate " " arguments).toList }
    | "." =>
      match arguments with
      | [] => return 0
      | word :: _ =>
        let path ← scriptPath word
        let text ← scriptText word path
        changeShell fun shell => { shell with caller := some path }
        let source := { rest := text.toList, isFile := true }
        match ← attempt (script fuel manner.inner false source) with
        | .ok status => return status
        | .error .returned => status
        | .error interruption => throw interruption
    | "exec" =>
      match arguments with
      | [] => return 0
      | tool :: arguments =>
        match ← Target.amongTools tool with
        | .tool _ name =>
          changeShell fun shell => { shell with traps := keptTraps shell.traps }
          match ← toEnd (finish fuel) (start fuel name tool arguments) with
          | .killed signal => throw (.killed signal)
          | .exited status =>
            setStatus status
            throw .exited
        | .denied =>
          complain (tool ++ ": Permission denied")
          setStatus (if tool.isEmpty then 127 else 126)
          throw .exited
        | _ =>
          complain (tool ++ ": not found")
          setStatus 127
          throw .exited
    | "exit" =>
      let shell ← shell
      takeStatus arguments (shell.trapped.getD shell.status)
      throw .exited
    | "return" =>
      takeStatus arguments (← status)
      throw .returned
    | "break" => leaveLoops .leave arguments
    | "continue" => leaveLoops .nextRound arguments
    | "command" =>
      let (options, words) ← Builtin.takeOptions ['p', 'v', 'V'] [] arguments
      Builtin.describeCommand options words
    | _ =>
      match Builtin.catalog.lookup name with
      | some act => act arguments
      | none => return 0

/-- Lets a tool take the place of the process; `name` is how it has been called. -/
def start : Nat → (tool name : Octets) → List Octets → Act Unit
  | 0, _, _, _ => throw .endless
  | fuel + 1, tool, name, arguments => do
    if tool == "sh" then
      let outer ← shell
      changeShell fun _ => started outer name
      let startup ← startup arguments
      changeShell fun shell =>
        { shell with
          name := startup.name.getD name, arguments := startup.arguments, line := 1 }
      let text := startup.text.toList.filter (· != '\x00')
      discard (script fuel {} false { rest := text, isFile := startup.isFile })
    else
      match Tool.all.lookup tool with
      | some act => setStatus (← act name arguments)
      | none => setStatus 127

end

end Evaluation

end TapeAdmin.Shell
