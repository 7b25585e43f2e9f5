import TapeAdmin.Shell.Environment
import TapeAdmin.Shell.Letters
import TapeAdmin.Shell.Number

/-!
# Arguments of commands

What the commands of the shell share: they take options off their arguments, and they write texts so
that the shell reads them back.
-/

namespace TapeAdmin.Shell

namespace Builtin

open Act

/-- Takes options off the start of arguments. -/
def takeOptions (flags valued : List Char) :
    List Octets → Act (List (Char × Octets) × List Octets)
  | [] => return ([], [])
  | word :: words => do
    match word.toList with
    | ['-', '-'] => return ([], words)
    | '-' :: first :: others =>
      match optionsOf flags valued (first :: others) with
      | .error letter => fail ("Illegal option -" ++ letter.toString)
      | .ok (found, none) =>
        let (more, rest) ← takeOptions flags valued words
        return (found ++ more, rest)
      | .ok (found, some letter) =>
        match words with
        | [] => fail ("No arg for -" ++ letter.toString ++ " option")
        | value :: words =>
          let (more, rest) ← takeOptions flags valued words
          return (found ++ (letter, value) :: more, rest)
    | _ => return ([], word :: words)

/-- A text in quotes, so that the shell reads it back. -/
def quote (text : Octets) : Octets :=
  let pieces := text.splitOn "'"
  let quoted := pieces.map fun piece => "'" ++ piece ++ "'"
  match quoted with
  | [] => "''"
  | first :: others =>
    let isLastEmpty := pieces.getLast? == some ""
    let shown := if isLastEmpty then others.dropLast else others
    first ++ String.join (shown.map fun piece => "\"'\"" ++ piece) ++
      if isLastEmpty && !others.isEmpty then "\"'\"" else ""

/-- The number that an argument is. -/
def number (text : Octets) : Act Nat := do
  match count? text with
  | some number => return number
  | none => fail ("Illegal number: " ++ text)

/-- Refuses a word that is no name. -/
def demandName (name : Octets) : Act Unit := do
  if isName name then return () else fail (name ++ ": bad variable name")

end Builtin

end TapeAdmin.Shell
