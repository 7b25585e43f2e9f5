import TapeAdmin.Shell.Syntax

/-!
# The text of a script while it is read

A script is read from its start, one character after the other, and one command at a time. This
module holds what is left to read, the signs that the text falls into, and the faults that end the
reading.
-/

namespace TapeAdmin.Shell

/-- A word with a meaning of its own where a command may start. -/
inductive Keyword where
  | bang
  | caseWord
  | doWord
  | done
  | elifWord
  | elseWord
  | esac
  | fi
  | forWord
  | ifWord
  | inWord
  | thenWord
  | untilWord
  | whileWord
  | opening
  | closing
  deriving DecidableEq, Repr

/-- The keywords as they are written. -/
def keywords : List (Octets × Keyword) := [
  ("!", .bang), ("case", .caseWord), ("do", .doWord), ("done", .done), ("elif", .elifWord),
  ("else", .elseWord), ("esac", .esac), ("fi", .fi), ("for", .forWord), ("if", .ifWord),
  ("in", .inWord), ("then", .thenWord), ("until", .untilWord), ("while", .whileWord),
  ("\x7b", .opening), ("\x7d", .closing)]

/-- A keyword as it is written. -/
def Keyword.text (keyword : Keyword) : Octets :=
  match keywords.find? fun entry => entry.2 == keyword with
  | some (text, _) => text
  | none => ""

/-- A sign or a word of a script. -/
inductive Token where
  | endOfText
  | newline
  | semicolon
  | ampersand
  | bothSign
  | eitherSign
  | pipe
  | openParenthesis
  | closeParenthesis
  | endOfArm
  | redirect (descriptor : Nat) (kind : RedirectKind)
  /-- The opening of a document; `strips` leaves out the tabs in front of its lines. -/
  | document (descriptor : Nat) (strips : Bool)
  | word (parts : Word) (quoted : Bool)
  | keyword (keyword : Keyword)

/-- How messages call a sign or a word. -/
def Token.name : Token → String
  | .endOfText => "end of file"
  | .newline => "newline"
  | .semicolon => "\";\""
  | .ampersand => "\"&\""
  | .bothSign => "\"&&\""
  | .eitherSign => "\"||\""
  | .pipe => "\"|\""
  | .openParenthesis => "\"(\""
  | .closeParenthesis => "\")\""
  | .endOfArm => "\";;\""
  | .redirect .. | .document .. => "redirection"
  | .word .. => "word"
  | .keyword found => "\"" ++ found.text ++ "\""

/-- Why the text of a script cannot be read. -/
inductive ScriptFault where
  | unexpected (found : String) (expected : Option String)
  | badLoopVariable
  | badFunctionName
  | openQuote
  | openBraces
  | openArithmetic
  | openBackquote
  deriving DecidableEq, Repr

/-- The wording of a fault. -/
def ScriptFault.message : ScriptFault → String
  | .unexpected found none => found ++ " unexpected"
  | .unexpected found (some expected) => found ++ " unexpected (expecting " ++ expected ++ ")"
  | .badLoopVariable => "Bad for loop variable"
  | .badFunctionName => "Bad function name"
  | .openQuote => "Unterminated quoted string"
  | .openBraces => "Missing '\x7d'"
  | .openArithmetic => "Missing '))'"
  | .openBackquote => "EOF in backquote substitution"

/-- A document whose text starts after the line that is read. -/
structure PendingDocument where
  number : Nat
  strips : Bool
  /-- The line that ends the document. -/
  mark : Octets
  /-- A document with a quoted mark is taken as it is. -/
  literal : Bool
  deriving Repr

/-- An alias whose text stands in front of the text that is left to read. -/
structure OpenAlias where
  name : Octets
  /-- How many characters are left when the text of the alias has been read. -/
  restLength : Nat
  deriving Repr

/-- What is left of a script, and what has been seen of it. -/
structure Source where
  rest : List Char
  /-- Whether the text comes from a file, whose lines can be shown as they are read. -/
  isFile : Bool := false
  line : Nat := 1
  /-- A sign that has been looked at and is read again. -/
  pushed : Option Token := none
  pending : List PendingDocument := []
  /-- The documents that have been read, by their numbers. -/
  documents : List (Nat × Word) := []
  nextDocument : Nat := 0
  aliases : List (Octets × Octets) := []
  openAliases : List OpenAlias := []

/-- A step of reading, which a fault ends; the fault comes with its line. -/
abbrev Reader := StateT Source (Except (Nat × ScriptFault))

namespace Reader

/-- Ends the reading. -/
def fail {α : Type} (fault : ScriptFault) : Reader α := do
  throw ((← get).line, fault)

/-- Refuses a sign that stands where it has no place. -/
def unexpected {α : Type} (found : Token) (expected : Option Token) : Reader α :=
  fail (.unexpected found.name (expected.map Token.name))

/-- Whether the text starts with a backslash that joins two lines. -/
def joinsLines : List Char → Bool
  | '\\' :: '\n' :: _ => true
  | _ => false

/-- The text without the backslashes at its start that join lines, and how many there were. -/
def withoutJoins (chars : List Char) : List Char × Nat :=
  match chars with
  | '\\' :: '\n' :: rest =>
    let (rest', joins) := withoutJoins rest
    (rest', joins + 1)
  | _ => (chars, 0)

/-- Passes over the places at which lines are joined. -/
def skipJoins : Reader Unit :=
  modify fun source =>
    if joinsLines source.rest then
      let (rest, joins) := withoutJoins source.rest
      { source with rest, line := source.line + joins }
    else source

/-- The next character as it is written. -/
def peekRaw : Reader (Option Char) := do
  return (← get).rest.head?

/-- The next character of joined lines. -/
def peek : Reader (Option Char) := do
  skipJoins
  peekRaw

/-- Passes over a character. -/
def advance : Reader Unit :=
  modify fun source =>
    match source.rest with
    | '\n' :: rest => { source with rest, line := source.line + 1 }
    | _ :: rest => { source with rest }
    | [] => source

/-- Passes over the next character of joined lines if it is the given one. -/
def accept (char : Char) : Reader Bool := do
  if (← peek) == some char then
    advance
    return true
  else return false

/-- Reads the characters of joined lines that satisfy a test; `fuel` bounds their number. -/
def takeWhile (test : Char → Bool) : Nat → Reader (List Char)
  | 0 => return []
  | fuel + 1 => do
    match ← peek with
    | some char =>
      if test char then
        advance
        return char :: (← takeWhile test fuel)
      else return []
    | none => return []

/-- Reads a name. -/
def takeName : Reader Octets := do
  return String.ofList (← takeWhile isNameChar ((← get).rest.length + 1))

/-- Looks at a sign again later. -/
def push (token : Token) : Reader Unit :=
  modify fun source => { source with pushed := some token }

/-- Reads another text in place of the script, to its end or to wherever the reading stops. -/
def reading {α : Type} (chars : List Char) (reader : Reader α) : Reader α := do
  let outer ← get
  set { outer with rest := chars, line := 1, pushed := none, pending := [], openAliases := [] }
  let value ← reader
  modify fun inner =>
    { outer with documents := inner.documents, nextDocument := inner.nextDocument }
  return value

end Reader

end TapeAdmin.Shell
