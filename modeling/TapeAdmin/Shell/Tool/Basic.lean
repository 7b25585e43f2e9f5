import TapeAdmin.Shell.Letters
import TapeAdmin.Shell.Quoting
import TapeAdmin.Shell.Redirection

/-!
# What tools share

A tool writes to its descriptors and returns its status; `name` is how it has been called, which its
messages repeat. This module holds their messages, their options, and how they read and write.
-/

namespace TapeAdmin.Shell

namespace Tool

open Act

/-- Writes a message about an error. -/
def complain (name message : Octets) : Act Unit :=
  discard (write 2 (name ++ ": " ++ message ++ "\n"))

/-- Refers to the help of a tool. -/
def referToHelp (name : Octets) : Act Unit :=
  discard (write 2 ("Try '" ++ name ++ " --help' for more information.\n"))

/-- Refuses arguments of a tool. -/
def refuse (name message : Octets) : Act Nat := do
  complain name message
  referToHelp name
  return 1

/-- The wording of an error. -/
def reason : SystemError → Octets
  | .refused number => errorNumberText number
  | other => other.message

/-- Writes the output of a tool, and returns its status, which is another one if that fails. -/
def output (name text : Octets) (status : Nat) : Act Nat := do
  match ← if text.isEmpty then pure (.ok ()) else write 1 text with
  | .ok () => return status
  | .error error =>
    complain name ("write error: " ++ reason error)
    return 1

/-- What the arguments of a tool say. -/
structure Arguments where
  options : List (Char × Octets) := []
  operands : List Octets := []

/-- Whether an option is among the arguments. -/
def Arguments.has (arguments : Arguments) (letter : Char) : Bool :=
  (arguments.options.lookup letter).isSome

/-- The value of an option, which is the last one given. -/
def Arguments.value? (arguments : Arguments) (letter : Char) : Option Octets :=
  arguments.options.reverse.lookup letter

/-- Puts options in front of those that follow. -/
def Arguments.add (options : List (Char × Octets)) (arguments : Arguments) : Arguments :=
  { arguments with options := options ++ arguments.options }

/-- Reads the arguments of a tool, whose options may stand anywhere. -/
def Arguments.read (flags valued : List Char) : List Octets → Except Octets Arguments
  | [] => .ok {}
  | word :: words =>
    match word.toList with
    | ['-', '-'] => .ok { operands := words }
    | '-' :: '-' :: _ => .error ("unrecognized option '" ++ word ++ "'")
    | '-' :: first :: others =>
      match optionsOf flags valued (first :: others) with
      | .error letter => .error ("invalid option -- '" ++ letter.toString ++ "'")
      | .ok (found, none) => (read flags valued words).map (add found)
      | .ok (found, some letter) =>
        match words with
        | [] => .error ("option requires an argument -- '" ++ letter.toString ++ "'")
        | value :: words => (read flags valued words).map (add (found ++ [(letter, value)]))
    | _ => (read flags valued words).map fun arguments =>
      { arguments with operands := word :: arguments.operands }

/-- Does what a tool does with its arguments, unless they are refused. -/
def withArguments (flags valued : List Char) (act : Octets → Arguments → Act Nat) (name : Octets)
    (words : List Octets) : Act Nat :=
  match Arguments.read flags valued words with
  | .ok arguments => act name arguments
  | .error message => refuse name message

/-- The name of a file as messages show it. -/
def fileName (word : Octets) : Octets :=
  let quoted := Quoting.asWord word
  if quoted == word && word.toList.contains ':' then "'" ++ word ++ "'" else quoted

/-- The name of a file in quotes, as messages show it. -/
def quotedName (word : Octets) : Octets :=
  let quoted := Quoting.asWord word
  if quoted == word then "'" ++ word ++ "'" else quoted

/-- A portion of the file that an argument names, or of the standard input. -/
def portionOf (portion : Portion) (word : Octets) : Act (Except SystemError Octets) := do
  if word == "-" then read 0 portion
  else
    match ← Redirection.openPath .input word with
    | .ok openFile => readFrom (← addOpenFile openFile) openFile portion
    | .error error => return .error error

/-- The content of the file that an argument names, or of the standard input. -/
def content : Octets → Act (Except SystemError Octets) :=
  portionOf .all

/-- How a tool goes through files. -/
structure Passage where
  /-- How much of a file is read. -/
  portion : Portion := .all
  /-- What is done with a file; the flag says whether it is the first one that can be read. -/
  act : (isFirst : Bool) → (source text : Octets) → Act Nat
  /-- Says that a file cannot be read. -/
  blame : (shown : Octets) → Octets := fun shown => shown

/-- Goes through the files that arguments name, and returns the status. -/
def Passage.run (passage : Passage) (name : Octets) (isFirst : Bool) :
    (status : Nat) → List Octets → Act Nat
  | status, [] => return status
  | status, word :: words => do
    match ← portionOf passage.portion word with
    | .ok text =>
      let after ← passage.act isFirst word text
      passage.run name false (max status after) words
    | .error error =>
      complain name (passage.blame word ++ ": " ++ reason error)
      passage.run name isFirst 1 words

/-- The lines of a text, each with its line feed, behind those found before, the last one first; the
last line may lack the line feed. `line` is the start of a line, the last character first. -/
def linesFrom (lines : List (List Char)) (line : List Char) : List Char → List (List Char)
  | [] => (if line.isEmpty then lines else line.reverse :: lines).reverse
  | char :: chars =>
    if char == '\n' then linesFrom ((char :: line).reverse :: lines) [] chars
    else linesFrom lines (char :: line) chars

/-- The lines of a text, each with its line feed; the last one may lack it. -/
def linesOf (text : Octets) : List (List Char) :=
  linesFrom [] [] text.toList

/-- Lines as a text. -/
def unlines (lines : List (List Char)) : Octets :=
  String.ofList lines.flatten

/-- A line with a line feed at its end. -/
def closed (line : List Char) : List Char :=
  if line.getLast? == some '\n' then line else line ++ ['\n']

/-- A number in a column of a given width. -/
def column (width number : Nat) : Octets :=
  let digits := toString number
  String.ofList (List.replicate (width - digits.length) ' ') ++ digits

end Tool

end TapeAdmin.Shell
