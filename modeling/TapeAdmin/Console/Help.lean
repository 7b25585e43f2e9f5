import TapeAdmin.Console.Grammar
import TapeAdmin.Console.Usage

/-!
# Help

What the program says about its command line.
-/

namespace TapeAdmin

/-- How an argument is written, with its letter if it has one. -/
def Argument.written (argument : Argument) : Option String :=
  argument.long?.map fun name =>
    let short :=
      match argument.short? with
      | some letter => "-" ++ letter.toString ++ ", "
      | none => "    "
    short ++ "--" ++ name ++ if argument.isFlag then "" else " <VALUE>"

/-- The lines on the arguments of a verb. -/
def Verb.optionLines (verb : Verb) : List String :=
  verb.options.filterMap fun argument => argument.written.map ("  " ++ ·)

/-- The help on a verb. -/
def Verb.help (verb : Verb) : List String :=
  ["Usage: " ++ verb.word ++ " [OPTIONS]" ++ if verb.isIncomplete then " <COMMAND>" else ""] ++
  (if verb.isIncomplete then
    "Commands:" :: verb.successors.map fun successor => "  " ++ successor.word
  else []) ++
  "Options:" :: verb.optionLines

/-- What is wrong with a command line. -/
def UsageFault.reason : UsageFault → String
  | .helpWanted | .versionWanted => ""
  | .nothingAsked | .missingVerb => "a command is missing"
  | .unknownVerb => "there is no such command"
  | .unknownArgument => "there is no such argument"
  | .invalidValue => "a value is missing or not allowed"
  | .unreadableValue => "a value cannot be read"
  | .conflict => "arguments exclude each other or are repeated"
  | .missingArgument => "a required argument is missing"
  | .unwantedValue => "a flag has a value"

end TapeAdmin
