import TapeAdmin.Shell.Builtin.Options

/-!
# Options of scripts

The command of the shell that takes one option after the other off the arguments of a script. The
number of the next argument is in a variable; where in that argument the next letter is, the shell
remembers.
-/

namespace TapeAdmin.Shell

namespace Builtin

open Act

/-- What the next letter of the arguments is. -/
inductive OptionLetter where
  | finished
  | plain (letter : Char)
  | valued (letter : Char) (value : Octets)
  | unknown (letter : Char)
  /-- An option without the value that it should have. -/
  | lacking (letter : Char)
  deriving DecidableEq, Repr

/-- Whether an option is known, and whether it has a value, by the letters that a script knows. -/
def knownLetter? (letter : Char) : List Char → Option Bool
  | [] => none
  | known :: ':' :: letters => if known == letter then some true else knownLetter? letter letters
  | known :: letters => if known == letter then some false else knownLetter? letter letters

/-- The next letter, the number of the argument after it, and where in the argument before that one
the letter after it is, if there is one. `index` is the number of the argument in which the search
starts, and `offset` where in the argument before it. -/
def nextLetter (known : List Char) (arguments : List Octets) (index offset : Nat) :
    OptionLetter × Nat × Option Nat :=
  let current := if offset = 0 then [] else ((arguments[index - 2]?).getD "").toList.drop offset
  let (rest, index, start) : Option (List Char) × Nat × Nat :=
    if !current.isEmpty && 2 ≤ index then (some current, index, offset)
    else
      match ((arguments[index - 1]?).getD "").toList with
      | ['-', '-'] => (none, index + 1, 0)
      | '-' :: letter :: letters => (some (letter :: letters), index + 1, 1)
      | _ => (none, index, 0)
  match rest with
  | some (letter :: letters) =>
    let after := if letters.isEmpty then none else some (start + 1)
    match knownLetter? letter known with
    | none => (.unknown letter, index, after)
    | some false => (.plain letter, index, after)
    | some true =>
      if !letters.isEmpty then (.valued letter (String.ofList letters), index, none)
      else
        match arguments[index - 1]? with
        | some value => (.valued letter value, index + 1, none)
        | none => (.lacking letter, index, none)
  | _ => (.finished, index, none)

/-- `getopts`. -/
def getopts (arguments : List Octets) : Act Nat := do
  match arguments with
  | known :: name :: given =>
    demandName name
    let shell ← shell
    let words := if given.isEmpty then shell.arguments else given
    let index := (((← value? "OPTIND").bind count?).getD 1).max 1
    let isQuiet := known.toList.head? == some ':'
    let (letter, next, offset) :=
      nextLetter known.toList words index (if index = 1 then 0 else shell.optionOffset)
    let shown ←
      match letter with
      | .finished => pure '?'
      | .plain letter =>
        assign "OPTARG" ""
        pure letter
      | .valued letter value =>
        assign "OPTARG" value
        pure letter
      | .unknown letter =>
        if isQuiet then assign "OPTARG" letter.toString
        else
          discard (write 2 ("Illegal option -" ++ letter.toString ++ "\n"))
          putVariable "OPTARG" none
        pure '?'
      | .lacking letter =>
        if isQuiet then
          assign "OPTARG" letter.toString
          pure ':'
        else
          discard (write 2 ("No arg for -" ++ letter.toString ++ " option\n"))
          putVariable "OPTARG" none
          pure '?'
    assign "OPTIND" (toString next)
    assign name shown.toString
    changeShell fun shell => { shell with optionOffset := offset.getD 0 }
    return if letter == .finished then 1 else 0
  | _ => fail "Usage: getopts optstring var [arg...]"

end Builtin

end TapeAdmin.Shell
