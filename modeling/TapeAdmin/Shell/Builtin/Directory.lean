import TapeAdmin.Shell.Builtin.Options
import TapeAdmin.Shell.Redirection

/-!
# Commands about directories

The commands of the shell that change and show its directory.
-/

namespace TapeAdmin.Shell

namespace Builtin

open Act

/-- A place as a path. -/
def placeText (place : List String) : Octets :=
  Octets.ofText ("/" ++ String.intercalate "/" place)

/-- Goes to a directory. -/
def goTo (place : List String) : Act Unit := do
  let before := placeText (← shell).directory
  changeShell fun shell => { shell with directory := place }
  assign "OLDPWD" before
  assign "PWD" (placeText place)

/-- Whether a path says itself where it starts: at the root, here, or in the directory around. -/
def saysStart (path : Octets) : Bool :=
  match path.toList with
  | '/' :: _ | ['.'] | ['.', '.'] | '.' :: '/' :: _ | '.' :: '.' :: '/' :: _ => true
  | _ => false

/-- The paths that a directory can be found by, with whether it is shown which one it is. -/
def directoryPaths (path : Octets) : Act (List (Octets × Bool)) := do
  let starts ← if saysStart path then pure none else value? "CDPATH"
  match starts with
  | some starts =>
    let found := (starts.splitOn ":").map fun start =>
      if start.isEmpty then (path, false) else (start ++ "/" ++ path, true)
    return found ++ [(path, false)]
  | none => return [(path, false)]

/-- `cd`. -/
def cd (arguments : List Octets) : Act Nat := do
  let (_, words) ← takeOptions ['L', 'P'] [] arguments
  let (target, isShown) ←
    match words with
    | [] => pure ((← value? "HOME").getD "", false)
    | "-" :: _ => pure ((← value? "OLDPWD").getD "", true)
    | word :: _ => pure (word, false)
  let files ← files
  let places := (← directoryPaths (if target.isEmpty then "." else target)).filterMap
    fun (path, isShown) =>
      match Redirection.find files (Octets.path path) with
      | .ok (place, some .directory) => some (place, isShown)
      | _ => none
  match places with
  | (place, isFound) :: _ =>
    goTo place
    if isShown || isFound then say (placeText place ++ "\n")
    return 0
  | [] => fail ("can't cd to " ++ target)

/-- `pwd`. -/
def pwd (arguments : List Octets) : Act Nat := do
  discard (takeOptions ['L', 'P'] [] arguments)
  say (placeText (← shell).directory ++ "\n")
  return 0

end Builtin

end TapeAdmin.Shell
