import TapeAdmin.Shell.Builtin.Catalog

/-!
# Invocations

Which command the words of a simple command invoke. The word `command` in front of other words lets
the shell pass over its functions and go on after errors that would end it.
-/

namespace TapeAdmin.Shell

/-- What the words of a simple command invoke. -/
structure Invocation where
  name : Octets
  arguments : List Octets
  target : Target
  /-- Whether `command` stands in front. -/
  isGuarded : Bool

namespace Invocation

open Act

/-- Whether a word stands for options of `command` after which it runs what follows. -/
def isOption (word : Octets) : Bool :=
  match word.toList with
  | '-' :: 'p' :: letters => letters.all (· == 'p')
  | _ => false

/-- The words that `command` runs, if it runs any. -/
def guarded? : List Octets → Option (List Octets)
  | [] => none
  | word :: words =>
    if word == "--" then if words.isEmpty then none else some words
    else if isOption word then guarded? words
    else if word.toList.head? == some '-' && word != "-" then none
    else some (word :: words)

/-- What words invoke; `fuel` bounds how often `command` stands in front. -/
def find (isGuarded : Bool) : (fuel : Nat) → (name : Octets) → List Octets → Act Invocation
  | 0, name, arguments => return ⟨name, arguments, ← Target.find (!isGuarded) name, isGuarded⟩
  | fuel + 1, name, arguments => do
    let target ← Target.find (!isGuarded) name
    match target, guarded? arguments with
    | .ordinary, some (name' :: arguments') =>
      if name == "command" then find true fuel name' arguments'
      else return ⟨name, arguments, target, isGuarded⟩
    | _, _ => return ⟨name, arguments, target, isGuarded⟩

/-- Whether an error of the command ends the shell. -/
def isSpecial (invocation : Invocation) : Bool :=
  match invocation.target with
  | .special => !invocation.isGuarded
  | _ => false

/-- Whether the redirections remain in force after the command. -/
def keepsRedirections (invocation : Invocation) : Bool :=
  invocation.name == "exec" && invocation.arguments.isEmpty

/-- The commands among whose arguments assignments may stand. -/
def assigningCommands : List Octets := ["alias", "export", "local", "readonly"]

/-- The words that a word of a command stands for; assignments stay whole if the command takes them.
-/
def expandWord (substitute : Substitute) (isAssigning : Bool) (word : Word) :
    Act (List Octets) := do
  match if isAssigning then assignmentWord? word else none with
  | some (name, value) => return [name ++ "=" ++ (← Expansion.assignedText substitute value)]
  | none => Expansion.words substitute word

/-- The words that the words of a command stand for. `name` is the name of the command, once it is
known; `command` and its options are not taken for it. -/
def expand (substitute : Substitute) : (name : Option Octets) → List Word → Act (List Octets)
  | _, [] => return []
  | name, word :: words => do
    let isAssigning := (name.map assigningCommands.contains).getD false
    let texts ← expandWord substitute isAssigning word
    let name := name <|> texts.find? fun text => text != "command" && text.toList.head? != some '-'
    return texts ++ (← expand substitute name words)

end Invocation

end TapeAdmin.Shell
