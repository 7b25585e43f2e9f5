/-!
# Command lines

A program with its arguments, as they are handed to the operating system: no shell reads them. For
the eyes of the operator a command line is rendered as shell text, with every word quoted that a
shell would not take as it stands.
-/

namespace TapeAdmin

/-- A program, its arguments, and after how many milliseconds it is given up. -/
structure CommandLine where
  program : String
  arguments : List String
  timeout : Option Nat := none
  deriving DecidableEq, Repr, Inhabited

namespace CommandLine

/-- The characters besides ASCII letters and digits that need no quotes. -/
def plainMarks : List Char := ['-', '_', '.', '/', '=', ',', ':', '@', '%', '+']

/-- A character that needs no quotes. -/
def isPlainChar (char : Char) : Bool :=
  char.isAlphanum || plainMarks.contains char

/-- A non-empty word of characters that need no quotes. -/
def isPlain (word : List Char) : Bool :=
  !word.isEmpty && word.all isPlainChar

/-- Inside single quotes only the single quote itself needs care: it leaves and re-enters them. -/
def quotedBody (word : List Char) : List Char :=
  word.flatMap fun char => if char = '\'' then ['\'', '\\', '\'', '\''] else [char]

/-- A word as shell text. -/
def quote (word : String) : String :=
  if isPlain word.toList then word
  else String.ofList ('\'' :: quotedBody word.toList ++ ['\''])

/-- The words of a command line: the program, then the arguments. -/
def words (command : CommandLine) : List String :=
  command.program :: command.arguments

/-- A command line as shell text. -/
def render (command : CommandLine) : String :=
  String.intercalate " " (command.words.map quote)

end CommandLine

end TapeAdmin
