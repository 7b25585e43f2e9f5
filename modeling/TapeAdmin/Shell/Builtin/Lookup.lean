import TapeAdmin.Shell.Builtin.Options
import TapeAdmin.Shell.Script
import TapeAdmin.Shell.Tool.Catalog

/-!
# What names stand for

How the shell finds what a name stands for, and the commands that show it.
-/

namespace TapeAdmin.Shell

/-- The commands of the shell that are not special. -/
def ordinaryCommands : List Octets := [
  "[", "alias", "bg", "cd", "chdir", "command", "echo", "false", "fg", "getopts", "hash", "jobs",
  "kill", "printf", "pwd", "read", "test", "true", "type", "ulimit", "umask", "unalias", "wait"]

/-- What the name of a command stands for. -/
inductive Target where
  | function (definition : ShellFunction)
  | special
  | ordinary
  | tool (path name : Octets)
  | missing
  | denied

namespace Target

open Act

/-- Whether there is a tool with a name; the shell is a tool too. -/
def isTool (name : Octets) : Bool :=
  name == "sh" || (Tool.all.lookup name).isSome

/-- The tool that a path names, or why it names none. -/
def ofPath (files : FileSystem) (path : Octets) : Target :=
  match Tool.atPath? path with
  | some name => if isTool name then .tool path name else .missing
  | none =>
    match files.find (Octets.path path) with
    | .ok _ => .denied
    | .error _ => .missing

/-- Whether the tools are among the directories in which the shell looks for commands. -/
def seesTools : Act Bool := do
  let path := (← value? "PATH").getD ""
  return (path.splitOn ":").any fun directory => Tool.directories.contains (directory ++ "/")

/-- What the name of a command stands for among the tools. -/
def amongTools (name : Octets) : Act Target := do
  if name.isEmpty then return .denied
  else if name.toList.contains '/' then return ofPath (← files) name
  else
    let isSeen ← seesTools
    return if isSeen && isTool name then .tool ("/usr/bin/" ++ name) name else .missing

/-- What the name of a command stands for; functions can be left out. -/
def find (withFunctions : Bool) (name : Octets) : Act Target := do
  let shell ← shell
  match if withFunctions then shell.functions.lookup name else none with
  | some definition => return .function definition
  | none =>
    if specialCommands.contains name then return .special
    else if ordinaryCommands.contains name then return .ordinary
    else amongTools name

end Target

namespace Builtin

open Act

/-- Describes what a word stands for, in a sentence or, in short, as it would be used. -/
def describe (isShort : Bool) (word : Octets) : Act Nat := do
  let tell (short sentence : Octets) : Act Nat := do
    say ((if isShort then short else word ++ " is " ++ sentence) ++ "\n")
    return 0
  if (keywords.lookup word).isSome then tell word "a shell keyword"
  else
    match (← shell).aliases.lookup word with
    | some text => tell ("alias " ++ word ++ "=" ++ quote text) ("an alias for " ++ text)
    | none =>
      match ← Target.find true word with
      | .function _ => tell word "a shell function"
      | .special => tell word "a special shell builtin"
      | .ordinary => tell word "a shell builtin"
      | .tool path _ => tell path path
      | .missing | .denied =>
        if !isShort then say (word ++ ": not found\n")
        return 127

/-- `type`. -/
def type (arguments : List Octets) : Act Nat := do
  let mut status := 0
  for word in arguments do
    status := max status (← describe false word)
  return status

/-- `command` where it only describes what its argument stands for. -/
def describeCommand (options : List (Char × Octets)) (words : List Octets) : Act Nat := do
  match words with
  | [] => return 0
  | word :: _ => describe (options.lookup 'V').isNone word

/-- `hash`, which only says which of its arguments are no commands. -/
def hash (arguments : List Octets) : Act Nat := do
  let (_, words) ← takeOptions ['r'] [] arguments
  let mut status := 0
  for word in words do
    match ← Target.find true word with
    | .missing | .denied =>
      complain (word ++ ": not found")
      status := 1
    | _ => pure ()
  return status

/-- `alias`. -/
def aliasNames (arguments : List Octets) : Act Nat := do
  if arguments.isEmpty then
    for (name, text) in (← shell).aliases do
      say (name ++ "=" ++ quote text ++ "\n")
    return 0
  else
    let mut status := 0
    for word in arguments do
      let name := String.ofList (word.toList.takeWhile (· != '='))
      match word.toList.drop name.length with
      | '=' :: text =>
        changeShell fun shell =>
          let others := shell.aliases.filter fun entry => entry.1 != name
          { shell with aliases := others ++ [(name, String.ofList text)] }
      | _ =>
        match (← shell).aliases.lookup name with
        | some text => say (name ++ "=" ++ quote text ++ "\n")
        | none =>
          discard (write 2 ("alias: " ++ name ++ " not found\n"))
          status := 1
    return status

/-- `unalias`. -/
def unalias (arguments : List Octets) : Act Nat := do
  let (options, words) ← takeOptions ['a'] [] arguments
  if !options.isEmpty then
    changeShell fun shell => { shell with aliases := [] }
    return 0
  else
    let mut status := 0
    for word in words do
      if ((← shell).aliases.lookup word).isSome then
        changeShell fun shell =>
          { shell with aliases := shell.aliases.filter fun entry => entry.1 != word }
      else
        discard (write 2 ("unalias: " ++ word ++ " not found\n"))
        status := 1
    return status

end Builtin

end TapeAdmin.Shell
