import TapeAdmin.Shell.Descriptor

/-!
# Messages and variables

What a shell says about itself, and the variables that it has.
-/

namespace TapeAdmin.Shell

namespace Act

/-- Writes a message of the shell, after its name and the line of the script. -/
def complain (message : Octets) : Act Unit := do
  let shell ← shell
  let caller :=
    match shell.caller with
    | some caller => caller ++ ": "
    | none => ""
  discard (write 2 (shell.name ++ ": " ++ toString shell.line ++ ": " ++ caller ++ message ++ "\n"))

/-- Ends the process with a message, unless a command catches the failure. -/
def fail {α : Type} (message : Octets) : Act α := do
  complain message
  setStatus 2
  throw .failed

/-- Lets the command that runs write text. -/
def say (text : Octets) : Act Unit :=
  changeShell fun shell => { shell with buffer := shell.buffer ++ text }

/-- A variable. -/
def variableNamed? (name : Octets) : Act (Option Variable) := do
  return (← shell).bindings.lookup name

/-- The value of a variable. -/
def value? (name : Octets) : Act (Option Octets) := do
  return (← variableNamed? name).bind Variable.value

/-- Puts a variable in place of the one with the same name. -/
def putVariable (name : Octets) (entry : Option Variable) : Act Unit :=
  changeShell fun shell =>
    let others := shell.bindings.filter fun other => other.1 != name
    { shell with
      bindings :=
        match entry with
        | some entry => (name, entry) :: others
        | none => others }

/-- Gives a variable a value. -/
def assign (name value : Octets) : Act Unit := do
  let before := (← variableNamed? name).getD {}
  if before.readOnly then fail (name ++ ": is read only")
  else
    let exported := before.exported || (← isOn "allexport")
    putVariable name (some { before with value := some value, exported })
    if name == "OPTIND" then changeShell fun shell => { shell with optionOffset := 0 }

/-- Hides a variable until the function that runs returns. -/
def hide (name : Octets) : Act Unit := do
  let before ← variableNamed? name
  changeShell fun shell =>
    match shell.hidden with
    | names :: others =>
      if names.any fun entry => entry.1 == name then shell
      else { shell with hidden := ((name, before) :: names) :: others }
    | [] => shell

/-- Undoes what `hide` has hidden since the last `coverNames`. -/
def uncover (shell : ShellState) : ShellState :=
  match shell.hidden with
  | names :: others =>
    let bindings := names.foldl (fun bindings (name, before) =>
      let rest := bindings.filter fun entry => entry.1 != name
      match before with
      | some entry => (name, entry) :: rest
      | none => rest) shell.bindings
    { shell with bindings, hidden := others }
  | [] => shell

/-- Does something in which variables can be hidden until it ends. -/
def withHidden {α : Type} (act : Act α) : Act α := do
  changeShell fun shell => { shell with hidden := [] :: shell.hidden }
  finally' act uncover

end Act

end TapeAdmin.Shell
