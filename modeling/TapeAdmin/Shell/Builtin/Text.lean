import TapeAdmin.Shell.Builtin.Options
import TapeAdmin.Shell.Condition
import TapeAdmin.Shell.Printf

/-!
# Commands about texts

The commands of the shell that write texts and answer questions about them.
-/

namespace TapeAdmin.Shell

namespace Builtin

open Act

/-- `echo`, which knows one option and resolves escapes. -/
def echo (arguments : List Octets) : Act Nat := do
  let isOpen := arguments.head? == some "-n"
  let words := if isOpen then arguments.drop 1 else arguments
  let (chars, ending) := unescape .shellArgument (String.intercalate " " words).toList
  say (String.ofList chars ++ if ending == .complete && !isOpen then "\n" else "")
  return 0

/-- `printf`. -/
def printf (arguments : List Octets) : Act Nat := do
  let (_, words) ← takeOptions [] [] arguments
  match words with
  | [] => fail "usage: printf format [arg ...]"
  | format :: values =>
    let (printing, status, isComplete) := Printing.run .command format values
    say printing.output
    for complaint in printing.complaints.reverse do
      complain complaint
    if !isComplete && status == PrintfRules.command.failure then
      setStatus 2
      throw .failed
    else return status

/-- `test`, whose arguments may stand in brackets. -/
def test (isBracket : Bool) (arguments : List Octets) : Act Nat := do
  if isBracket && arguments.getLast? != some "]" then fail "missing ]"
  else
    match Condition.answer (← files) (if isBracket then arguments.dropLast else arguments) with
    | .ok answer => return if answer then 0 else 1
    | .error message => fail message

end Builtin

end TapeAdmin.Shell
