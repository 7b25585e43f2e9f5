import TapeAdmin.Shell.Builtin.Options

/-!
# Commands about what is allowed

The commands of the shell that show and set which permissions new files do not get, and how much
processes may take. The files here have no permissions and the processes no limits.
-/

namespace TapeAdmin.Shell

namespace Builtin

open Act

/-- A mask in octal digits. -/
def maskDigits (mask : Nat) : Octets :=
  String.ofList ('0' :: [64, 8, 1].map fun weight => Text.hexDigit (mask / weight % 8))

/-- The permissions of one kind of user that a mask leaves. -/
def maskLetters (digit : Nat) : Octets :=
  (if digit / 4 % 2 = 0 then "r" else "") ++ (if digit / 2 % 2 = 0 then "w" else "") ++
    if digit % 2 = 0 then "x" else ""

/-- The permissions that a mask leaves. -/
def maskText (mask : Nat) : Octets :=
  "u=" ++ maskLetters (mask / 64 % 8) ++ ",g=" ++ maskLetters (mask / 8 % 8) ++
    ",o=" ++ maskLetters (mask % 8)

/-- `umask`. -/
def umask (arguments : List Octets) : Act Nat := do
  let (options, words) ← takeOptions ['S'] [] arguments
  match words with
  | [] =>
    let mask := (← shell).mask
    say ((if options.isEmpty then maskDigits mask else maskText mask) ++ "\n")
    return 0
  | word :: _ =>
    match Text.ofDigits? 8 word.toList with
    | some mask =>
      changeShell fun shell => { shell with mask := mask % 512 }
      return 0
    | none =>
      if (word.toList.head?.map Char.isDigit).getD false then fail ("Illegal number: " ++ word)
      else fail ("Illegal mode: " ++ word)

/-- The letters of the limits that `ulimit` knows. -/
def limitLetters : List Char :=
  ['H', 'S', 'a', 't', 'f', 'd', 's', 'm', 'c', 'n', 'p', 'l', 'v', 'w', 'r']

/-- `ulimit`. -/
def ulimit (arguments : List Octets) : Act Nat := do
  let (_, words) ← takeOptions limitLetters [] arguments
  match words with
  | [] =>
    say "unlimited\n"
    return 0
  | [_] => return 0
  | _ => fail "too many arguments"

end Builtin

end TapeAdmin.Shell
