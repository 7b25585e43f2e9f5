import TapeAdmin.Shell.Octets

/-!
# Shell commands

What the text of a script says: words, which are put together from literal text and from parts that
are replaced when the word is used, and commands, which are put together from words and other
commands.
-/

namespace TapeAdmin.Shell

/-- Which end of a value a pattern is taken from. -/
inductive TrimSide where
  | front
  | back
  deriving DecidableEq, Repr

/-- What the word after a parameter is for. -/
inductive AlternativeKind where
  /-- It is used in place of a missing value. -/
  | replace
  /-- It becomes the value of the parameter where that is missing. -/
  | assign
  /-- It is the message with which a missing value stops the shell. -/
  | demand
  /-- It is used in place of a value that is not missing. -/
  | whenPresent
  deriving DecidableEq, Repr

/-- What a redirection does to a descriptor. -/
inductive RedirectKind where
  /-- Writes to a file from its start; `force` overrides the option that protects files. -/
  | output (force : Bool)
  | append
  | input
  /-- Reads and writes a file, which is created but not cut. -/
  | both
  /-- Lets the descriptor stand for what another one stands for, or closes it. -/
  | duplicate
  /-- Reads the text of the document with this number. -/
  | document (number : Nat)
  deriving DecidableEq, Repr

/-- Whether a loop goes on as long as its condition holds, or until it does. -/
inductive LoopKind where
  | whileTrue
  | untilTrue
  deriving DecidableEq, Repr

mutual

/-- A part of a word; `quoted` parts are neither split nor taken as patterns. -/
inductive WordPart where
  | text (quoted : Bool) (text : Octets)
  | parameter (quoted : Bool) (name : Octets) (use : ParameterUse)
  /-- The output of a command. -/
  | output (quoted : Bool) (command : Command)
  /-- The value of an arithmetic expression. -/
  | arithmetic (quoted : Bool) (expression : List WordPart)

/-- What is made of the value of a parameter. -/
inductive ParameterUse where
  | value
  | length
  /-- `orEmpty` treats an empty value as a missing one. -/
  | alternative (kind : AlternativeKind) (orEmpty : Bool) (word : List WordPart)
  | trim (side : TrimSide) (longest : Bool) (pattern : List WordPart)
  /-- The shell does not know the sign after the name. -/
  | unknown

/-- A redirection of a descriptor. -/
inductive Redirect where
  | mk (descriptor : Nat) (kind : RedirectKind) (target : List WordPart)

/-- A command; `line` is the line of the script on which it starts. -/
inductive Command where
  | simple (line : Nat) (assignments : List (Octets × List WordPart))
      (words : List (List WordPart)) (redirects : List Redirect)
  | pipeline (commands : List Command)
  | negation (command : Command)
  | both (first second : Command)
  | either (first second : Command)
  | sequence (commands : List Command)
  | background (command : Command)
  | subshell (line : Nat) (body : Command) (redirects : List Redirect)
  | redirected (line : Nat) (body : Command) (redirects : List Redirect)
  | conditional (condition whenTrue : Command) (otherwise : Option Command)
  | loop (kind : LoopKind) (condition body : Command)
  /-- Without a list of words, the name goes through the parameters. -/
  | each (line : Nat) (name : Octets) (words : Option (List (List WordPart))) (body : Command)
  | choice (line : Nat) (subject : List WordPart) (arms : List (List (List WordPart) × Command))
  | function (line : Nat) (name : Octets) (body : Command)

end

/-- A word of a script. -/
abbrev Word := List WordPart

/-- A character that starts a name. -/
def isNameStart (char : Char) : Bool :=
  char.isAlpha || char == '_'

/-- A character of a name. -/
def isNameChar (char : Char) : Bool :=
  char.isAlphanum || char == '_'

/-- Whether a text is a name. -/
def isName (text : Octets) : Bool :=
  match text.toList with
  | first :: rest => isNameStart first && rest.all isNameChar
  | [] => false

/-- The name and the value of an assignment. -/
def assignment? (text : Octets) : Option (Octets × Octets) :=
  let name := String.ofList (text.toList.takeWhile (· != '='))
  match text.toList.drop name.length with
  | '=' :: value => if isName name then some (name, String.ofList value) else none
  | _ => none

end TapeAdmin.Shell
