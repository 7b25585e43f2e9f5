import TapeAdmin.Shell.Arithmetic
import TapeAdmin.Shell.Environment
import TapeAdmin.Shell.Field
import TapeAdmin.Shell.Glob

/-!
# What words stand for

Replaces the parts of a word by what they stand for. How a command in a word is run is a parameter,
because commands use words in turn.
-/

namespace TapeAdmin.Shell

/-- Runs a command in a word and returns what it writes. -/
abbrev Substitute := Command → Act Octets

/-- The options with a letter, in the order in which the shell lists them. -/
def optionLetters : List (String × Char) := [
  ("errexit", 'e'), ("noglob", 'f'), ("ignoreeof", 'I'), ("interactive", 'i'), ("monitor", 'm'),
  ("noexec", 'n'), ("stdin", 's'), ("xtrace", 'x'), ("verbose", 'v'), ("vi", 'V'), ("emacs", 'E'),
  ("noclobber", 'C'), ("allexport", 'a'), ("notify", 'b'), ("nounset", 'u'), ("privileged", 'p')]

namespace Expansion

open Act

/-- What is between the items of a list that becomes one text. -/
def joint : Act Octets := do
  match ← value? "IFS" with
  | some separators => return String.ofList (separators.toList.take 1)
  | none => return " "

/-- The characters that separate fields. -/
def separators : Act Separators := do
  match ← value? "IFS" with
  | some text => return ⟨text.toList⟩
  | none => return ⟨[' ', '\t', '\n']⟩

/-- The value of a parameter that is no list. -/
def parameter? (name : Octets) : Act (Option Octets) := do
  let shell ← shell
  match name with
  | "?" => return some (toString shell.status)
  | "$" => return some (toString shell.shellProcess)
  | "#" => return some (toString shell.arguments.length)
  | "!" => return shell.lastJob.map toString
  | "-" => return some (String.ofList ((optionLetters.reverse.filter fun option =>
      shell.options.contains option.1).map Prod.snd))
  | "@" | "*" => return some (String.intercalate (← joint) shell.arguments)
  | "0" => return some shell.name
  | _ =>
    match Text.ofDigits? 10 name.toList with
    | some 0 => return some shell.name
    | some number => return shell.arguments[number - 1]?
    | none => value? name

/-- Fails for a parameter without a value if the shell is told to. -/
def demandSet (name : Octets) (value : Option Octets) : Act Unit := do
  if value.isNone && (← isOn "nounset") then
    fail (name ++ ": parameter not set")

/-- The fragments of the value of a parameter. -/
def valueFragments (full quoted : Bool) (name : Octets) (value : Octets) : Act (List Fragment) := do
  let shell ← shell
  if full && (name == "@" || (name == "*" && !quoted)) then
    return (shell.arguments.map fun argument => .text argument quoted (!quoted)).intersperse .gap
  else return [.text value quoted (!quoted)]

/-- The home directory of a user, by the name after a tilde; without one it is that of the shell. -/
def homeOf (name : List Char) : Act (Option Octets) := do
  match String.ofList name with
  | "" => value? "HOME"
  | "root" => return some "/root"
  | _ => return none

/-- The parts of a text in which a tilde at the start stands for a home directory. The name of a
user goes up to a separator, or to the end of the word. -/
def withHome (text : List Char) (isLast : Bool) : Act Word := do
  match text with
  | '~' :: rest =>
    let name := rest.takeWhile (· != '/')
    let after := rest.drop name.length
    let home ← if after.isEmpty && !isLast then pure none else homeOf name
    match home with
    | some home => return [.text true home, .text false (String.ofList after)]
    | none => return [.text false (String.ofList text)]
  | _ => return [.text false (String.ofList text)]

/-- The parts of pieces of a text between colons, each of which may start with a home directory. -/
def withHomes (isLast : Bool) : List (List Char) → Act Word
  | [] => return []
  | [piece] => withHome piece isLast
  | piece :: pieces => do
    return (← withHome piece true) ++ .text false ":" :: (← withHomes isLast pieces)

/-- A word in which tildes stand for home directories, at its start and, in the value of an
assignment, after each colon. -/
def withTildes (isAssigned isStart : Bool) : Word → Act Word
  | [] => return []
  | .text false text :: parts => do
    let chars := text.toList
    let isLast := parts.isEmpty
    let start ←
      if isAssigned then
        match chars.splitOnP (· == ':') with
        | first :: pieces =>
          if isStart then withHomes isLast (first :: pieces)
          else
            let rest ← if pieces.isEmpty then pure [] else withHomes isLast pieces
            let mark := if pieces.isEmpty then [] else [WordPart.text false ":"]
            pure (WordPart.text false (String.ofList first) :: (mark ++ rest))
        | [] => pure []
      else if isStart then withHome chars isLast
      else pure [WordPart.text false text]
    return start ++ (← withTildes isAssigned false parts)
  | part :: parts => return part :: (← withTildes isAssigned false parts)

/-- The value of an arithmetic expression, whose assignments take effect. -/
def arithmetic (expression : Octets) : Act Octets := do
  let bindings := (← shell).bindings
  let outside (name : Octets) : Option Octets := (bindings.lookup name).bind Variable.value
  match Arithmetic.evaluate outside expression with
  | .ok (value, assigned) =>
    for (name, value) in assigned.reverse do
      assign name (toString value)
    return toString value
  | .error fault => fail (fault.message expression)

/-- What the fragments of a word are for. -/
structure Purpose where
  /-- Lists stay apart. -/
  full : Bool := false
  /-- The text of the word itself falls apart at separators. -/
  splits : Bool := false
  /-- The word is the value of an assignment. -/
  isAssigned : Bool := false

mutual

/-- The fragments of the parts of a word; `fuel` bounds how deep words are nested. -/
def fragments (substitute : Substitute) (purpose : Purpose) :
    Nat → List WordPart → Act (List Fragment)
  | 0, _ => return []
  | _, [] => return []
  | fuel + 1, part :: parts => do
    let first ← partFragments substitute purpose fuel part
    return first ++ (← fragments substitute purpose fuel parts)

/-- The fragments of one part of a word. -/
def partFragments (substitute : Substitute) (purpose : Purpose) :
    Nat → WordPart → Act (List Fragment)
  | 0, _ => return []
  | fuel + 1, part => do
    match part with
    | .text quoted text => return [.text text quoted (purpose.splits && !quoted)]
    | .output quoted command => return [.text (← substitute command) quoted (!quoted)]
    | .arithmetic quoted expression =>
      let text := Fragment.join (← fragments substitute {} fuel expression)
      return [.text (← arithmetic text) quoted (!quoted)]
    | .parameter quoted name use =>
      match use with
      | .unknown => fail "Bad substitution"
      | .value =>
        let value ← parameter? name
        demandSet name value
        valueFragments purpose.full quoted name (value.getD "")
      | .length =>
        let value ← parameter? name
        demandSet name value
        return [.text (toString (value.getD "").length) quoted (!quoted)]
      | .trim side longest pattern =>
        let value ← parameter? name
        demandSet name value
        match value with
        | none => return [.text "" quoted (!quoted)]
        | some value =>
          let pattern ← withTildes false true pattern
          let glyphs := Fragment.allGlyphs (← fragments substitute {} fuel pattern)
          let pattern := Pattern.ofGlyphs glyphs
          let trimmed :=
            match side with
            | .front => pattern.withoutFront longest value.toList
            | .back => pattern.withoutBack longest value.toList
          return [.text (String.ofList trimmed) quoted (!quoted)]
      | .alternative kind orEmpty word =>
        let value ← parameter? name
        let isMissing := value.isNone || (orEmpty && value == some "")
        let isAssigned := purpose.isAssigned
        let word ← if quoted then pure word else withTildes isAssigned true word
        match kind with
        | .whenPresent =>
          if isMissing then return []
          else fragments substitute { purpose with splits := !quoted } fuel word
        | .replace =>
          if isMissing then fragments substitute { purpose with splits := !quoted } fuel word
          else valueFragments purpose.full quoted name (value.getD "")
        | .assign =>
          if isMissing then
            let text := Fragment.join (← fragments substitute { isAssigned } fuel word)
            if isName name then
              assign name text
              return [.text text quoted (!quoted)]
            else fail (name ++ ": bad variable name")
          else valueFragments purpose.full quoted name (value.getD "")
        | .demand =>
          if isMissing then
            if word.isEmpty then
              fail (name ++ ": parameter not set" ++ if orEmpty then " or null" else "")
            else
              let text := Fragment.join (← fragments substitute { isAssigned } fuel word)
              fail (name ++ ": " ++ text)
          else valueFragments purpose.full quoted name (value.getD "")

end

/-- How deep words can be nested. -/
def depth : Nat := 100000

/-- The fragments of a word, whose start may be a home directory. -/
def wordFragments (substitute : Substitute) (full : Bool) (word : Word) : Act (List Fragment) := do
  fragments substitute { full } depth (← withTildes false true word)

/-- The text of a word that stays in one piece. -/
def text (substitute : Substitute) (word : Word) : Act Octets := do
  return Fragment.join (← wordFragments substitute false word)

/-- The text of a word of a document. -/
def documentText (substitute : Substitute) (word : Word) : Act Octets := do
  return Fragment.join (← fragments substitute {} depth word)

/-- The value of an assignment. -/
def assignedText (substitute : Substitute) (word : Word) : Act Octets := do
  return Fragment.join
    (← fragments substitute { isAssigned := true } depth (← withTildes true true word))

/-- The pattern that a word makes. -/
def pattern (substitute : Substitute) (word : Word) : Act Pattern := do
  return Pattern.ofGlyphs (Fragment.allGlyphs (← wordFragments substitute false word))

/-- The words that a field stands for: the paths that fit it, or the field itself. -/
def fieldWords (field : List Glyph) : Act (List Octets) := do
  let text := String.ofList (field.map Glyph.char)
  if (field.any fun glyph => !glyph.quoted && ['*', '?', '['].contains glyph.char) &&
      !(← isOn "noglob") && (Pattern.ofGlyphs field).isOpen then
    match Glob.expand (← files) field with
    | [] => return [text]
    | paths => return paths
  else return [text]

/-- The words that a word stands for. -/
def words (substitute : Substitute) (word : Word) : Act (List Octets) := do
  let fields := fields (← separators) (← wordFragments substitute true word)
  return (← fields.mapM fieldWords).flatten

/-- The words that several words stand for. -/
def allWords (substitute : Substitute) (all : List Word) : Act (List Octets) := do
  return (← all.mapM (words substitute)).flatten

end Expansion

end TapeAdmin.Shell
