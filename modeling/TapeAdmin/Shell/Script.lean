import TapeAdmin.Shell.Word
import TapeAdmin.Text.Digits

/-!
# Reading commands

Reads the commands of a script, one line at a time, because a command may change how the next one is
read. The functions that read commands call each other as deep as commands are nested; `fuel` bounds
that depth, and `Source.fuel` is more than a script can need.
-/

namespace TapeAdmin.Shell

/-- The commands that belong to the shell itself and cannot be the names of functions. -/
def specialCommands : List Octets := [
  ".", ":", "break", "continue", "eval", "exec", "exit", "export", "local", "readonly", "return",
  "set", "shift", "times", "trap", "unset"]

/-- How the next sign is looked at. -/
structure Expectation where
  /-- Line feeds are passed over. -/
  newlines : Bool := false
  /-- Keywords are told apart from words. -/
  keywords : Bool := false
  /-- Aliases are replaced. -/
  aliases : Bool := false
  /-- The next word is the mark of a document. -/
  mark : Bool := false

/-- The start of a command, where line feeds mean nothing. -/
def Expectation.start : Expectation :=
  { newlines := true, keywords := true, aliases := true }

/-- Where a list of commands stands. -/
inductive ListPlace where
  /-- On a line of the script, whose end is the end of the list. -/
  | line
  /-- In another command, which has at least one command in it. -/
  | body
  /-- In another command or in a word, with perhaps no command in it. -/
  | substitution
  deriving DecidableEq, Repr

/-- Whether a sign ends a list of commands inside another command. -/
def Token.endsList : Token → Bool
  | .closeParenthesis | .endOfArm => true
  | .keyword found =>
    [Keyword.doWord, .done, .elifWord, .elseWord, .esac, .fi, .thenWord, .closing].contains found
  | _ => false

/-- The literal text of a word that has no quotes and nothing that is replaced. -/
def literal? : Word → Option Octets
  | [.text false text] => some text
  | _ => none

/-- Whether a part of a word is quoted. -/
def isQuoted : WordPart → Bool
  | .text quoted _ | .parameter quoted _ _ | .output quoted _ | .arithmetic quoted _ => quoted

/-- The name and the value of a word that is an assignment. -/
def assignmentWord? : Word → Option (Octets × Word)
  | .text false text :: parts =>
    (assignment? text).map fun (name, value) =>
      (name, if value.isEmpty then parts else .text false value :: parts)
  | _ => none

/-- The pattern that a sign stands for where patterns are read. -/
def Token.pattern : Token → Word
  | .word parts _ => parts
  | .keyword found => [.text false found.text]
  | _ => []

/-- Commands in a row as one command. -/
def Command.ofList : List Command → Command
  | [command] => command
  | commands => .sequence commands

namespace Reader

/-- Whether the parts read so far are nothing but the number of a descriptor. -/
def descriptor? (parts : List WordPart) : Option (Option Nat) :=
  match parts with
  | [] => some none
  | [.text false text] =>
    if text.length == 1 then (Text.ofDigits? 10 text.toList).map some else none
  | _ => none

/-- Reads the sign of a redirection. -/
def takeRedirect (descriptor : Option Nat) : Reader Token := do
  if ← accept '>' then
    let descriptor := descriptor.getD 1
    if ← accept '>' then return .redirect descriptor .append
    else if ← accept '|' then return .redirect descriptor (.output true)
    else if ← accept '&' then return .redirect descriptor .duplicate
    else return .redirect descriptor (.output false)
  else
    advance
    let descriptor := descriptor.getD 0
    if ← accept '<' then return .document descriptor (← accept '-')
    else if ← accept '&' then return .redirect descriptor .duplicate
    else if ← accept '>' then return .redirect descriptor .both
    else return .redirect descriptor .input

/-- Reads a sign of one or two characters. -/
def takeSign (char : Char) (double single : Token) : Reader Token := do
  advance
  if ← accept char then return double else return single

/-- Passes over a comment. -/
def skipComment : Reader Unit :=
  modify fun source => { source with rest := source.rest.dropWhile (· != '\n') }

/-- Reads a sign or a word; `fuel` bounds the blanks and comments in front of it. -/
def takeToken (command : (closed : Bool) → Reader Command) (around : Surrounding) :
    Nat → Reader Token
  | 0 => return .endOfText
  | fuel + 1 => do
    match ← peek with
    | none => return .endOfText
    | some char =>
      if char == ' ' || char == '\t' then
        advance
        takeToken command around fuel
      else if char == '#' then
        skipComment
        takeToken command around fuel
      else if char == '\n' then
        advance
        return .newline
      else if char == '&' then takeSign '&' .bothSign .ampersand
      else if char == '|' then takeSign '|' .eitherSign .pipe
      else if char == ';' then takeSign ';' .endOfArm .semicolon
      else if char == '(' then
        advance
        return .openParenthesis
      else if char == ')' then
        advance
        return .closeParenthesis
      else
        let parts ← takeParts command ((← get).rest.length + 1) around []
        let next ← peek
        match descriptor? parts with
        | some descriptor =>
          if next == some '<' || next == some '>' then takeRedirect descriptor
          else return .word parts.reverse false
        | none => return .word parts.reverse (parts.any isQuoted)

/-- A line of a document and the text after it; unless the document is literal, a backslash in front
of a line feed does not end the line. -/
def documentLine (literal : Bool) : List Char → List Char × List Char
  | [] => ([], [])
  | '\\' :: char :: chars =>
    if char == '\n' && literal then (['\\', '\n'], chars)
    else
      let (line, rest) := documentLine literal chars
      ('\\' :: char :: line, rest)
  | char :: chars =>
    if char == '\n' then (['\n'], chars)
    else
      let (line, rest) := documentLine literal chars
      (char :: line, rest)

/-- The text of a document, the text after it, and how many lines it takes; `fuel` bounds their
number. -/
def documentText (document : PendingDocument) : Nat → List Char → List Char × List Char × Nat
  | 0, chars => ([], chars, 0)
  | _, [] => ([], [], 0)
  | fuel + 1, chars =>
    let start := if document.strips then chars.dropWhile (· == '\t') else chars
    let first := start.takeWhile (· != '\n')
    if String.ofList first == document.mark then
      let rest := start.drop first.length
      ([], rest.drop 1, if rest.isEmpty then 0 else 1)
    else
      let (line, rest) := documentLine document.literal start
      let (text, rest', lines) := documentText document fuel rest
      (line ++ text, rest', lines + line.count '\n')

/-- Reads the documents whose text starts here. -/
def takeDocuments (command : (closed : Bool) → Reader Command) :
    List PendingDocument → Reader Unit
  | [] => modify fun source => { source with pending := [] }
  | document :: documents => do
    let source ← get
    let (text, rest, lines) := documentText document (source.rest.length + 1) source.rest
    set { source with rest, line := source.line + lines }
    let parts ←
      if document.literal then pure [.text true (String.ofList text)]
      else
        let parts ← reading text (takeParts command (text.length + 1) .document [])
        pure parts.reverse
    modify fun source => { source with documents := (document.number, parts) :: source.documents }
    takeDocuments command documents

/-- Notes a document whose text starts after the line that is read. -/
def announceDocument (descriptor : Nat) (strips : Bool) (mark : Word) (quoted : Bool) :
    Reader Redirect := do
  let source ← get
  let text := String.join (mark.map fun
    | .text _ text => text
    | _ => "")
  let pending : PendingDocument := {
    number := source.nextDocument, strips, mark := text, literal := quoted }
  set { source with
    nextDocument := source.nextDocument + 1
    pending := source.pending ++ [pending] }
  return .mk descriptor (.document pending.number) []

/-- Whether the text of an alias is still being read. -/
def isOpen (source : Source) (name : Octets) : Bool :=
  source.openAliases.any fun opened =>
    opened.name == name && opened.restLength < source.rest.length

/-- Puts the text of an alias in front of the text that is left, if a name is one. -/
def openAlias (name : Octets) : Reader Bool := do
  let source ← get
  match source.aliases.lookup name with
  | some text =>
    if isOpen source name then return false
    else
      set { source with
        rest := text.toList ++ source.rest
        openAliases := ⟨name, source.rest.length⟩ :: source.openAliases }
      return true
  | none => return false

/-- Whether the text of an alias that ends in a blank has just been read. -/
def followsAlias : Reader Bool := do
  let source ← get
  if source.openAliases.isEmpty then return false
  else
    let length := source.rest.length
    let (closed, others) := source.openAliases.partition fun opened => length ≤ opened.restLength
    set { source with openAliases := others }
    return closed.any fun opened =>
      match (source.aliases.lookup opened.name).bind fun text => text.toList.getLast? with
      | some last => last == ' ' || last == '\t'
      | none => false

/-- The next sign, in front of which the text of an alias may have ended. -/
def nextToken (command : (closed : Bool) → Reader Command) (expectation : Expectation) :
    Reader (Token × Bool) := do
  let source ← get
  match source.pushed with
  | some token =>
    set { source with pushed := none }
    return (token, false)
  | none =>
    let around : Surrounding := if expectation.mark then .mark else .plain
    if source.openAliases.isEmpty then
      return (← takeToken command around (source.rest.length + 1), false)
    else
      modify fun source => { source with rest := source.rest.dropWhile fun char =>
        char == ' ' || char == '\t' }
      let follows ← followsAlias
      return (← takeToken command around (source.rest.length + 1), follows)

mutual

/-- Reads a sign as it is expected. -/
def token : Nat → Expectation → Reader Token
  | 0, _ => return .endOfText
  | fuel + 1, expectation => do
    let (found, follows) ← nextToken (substitution fuel) expectation
    match found with
    | .newline =>
      if expectation.newlines then
        takeDocuments (substitution fuel) (← get).pending
        token fuel expectation
      else return .newline
    | .word parts quoted =>
      match literal? parts with
      | some text =>
        match if expectation.keywords then keywords.lookup text else none with
        | some keyword => return .keyword keyword
        | none =>
          let isAlias ← if expectation.aliases || follows then openAlias text else pure false
          if isAlias then token fuel { expectation with aliases := true }
          else return .word parts quoted
      | none => return .word parts quoted
    | other => return other

/-- Reads the command inside parentheses with the closing one, or the command in the rest of a text.
-/
def substitution : Nat → (closed : Bool) → Reader Command
  | 0, _ => unexpected .endOfText none
  | fuel + 1, closed => do
    let commands ← list fuel .substitution []
    if closed then expect fuel {} .closeParenthesis
    return .ofList commands

/-- Reads a sign that must be the given one. -/
def expect : Nat → Expectation → Token → Reader Unit
  | 0, _, wanted => unexpected .endOfText (some wanted)
  | fuel + 1, expectation, wanted => do
    let found ← token fuel expectation
    if found.name == wanted.name then return () else unexpected found (some wanted)

/-- Reads commands up to the end of a list, and puts them behind `commands`, the last one first. -/
def list : Nat → ListPlace → List Command → Reader (List Command)
  | 0, _, _ => unexpected .endOfText none
  | fuel + 1, place, commands => do
    let found ← token fuel { Expectation.start with newlines := place != .line }
    match found with
    | .newline =>
      takeDocuments (substitution fuel) (← get).pending
      return commands.reverse
    | .endOfText => finish fuel commands
    | _ =>
      push found
      let mayEnd := place == .substitution || (place == .body && !commands.isEmpty)
      if mayEnd && found.endsList then return commands.reverse
      else
        let command ← andOr fuel {}
        let separator ← token fuel {}
        match separator with
        | .endOfText => finish fuel (command :: commands)
        | .newline =>
          push separator
          list fuel place (command :: commands)
        | .ampersand => list fuel place (.background command :: commands)
        | .semicolon => list fuel place (command :: commands)
        | _ =>
          if place == .line then unexpected separator none
          else
            push separator
            return (command :: commands).reverse

/-- Ends a list at the end of the text. -/
def finish : Nat → List Command → Reader (List Command)
  | 0, commands => return commands.reverse
  | fuel + 1, commands => do
    takeDocuments (substitution fuel) (← get).pending
    push .endOfText
    return commands.reverse

/-- Reads pipelines of which the status of one decides whether the next one runs. -/
def andOr : Nat → Expectation → Reader Command
  | 0, _ => unexpected .endOfText none
  | fuel + 1, expectation => do
    andOrFrom fuel (← pipeline fuel expectation)

/-- Reads the pipelines after the first one. -/
def andOrFrom : Nat → Command → Reader Command
  | 0, _ => unexpected .endOfText none
  | fuel + 1, first => do
    let found ← token fuel {}
    match found with
    | .bothSign => andOrFrom fuel (.both first (← pipeline fuel .start))
    | .eitherSign => andOrFrom fuel (.either first (← pipeline fuel .start))
    | _ =>
      push found
      return first

/-- Reads commands joined by pipes. -/
def pipeline : Nat → Expectation → Reader Command
  | 0, _ => unexpected .endOfText none
  | fuel + 1, expectation => do
    let found ← token fuel expectation
    match found with
    | .keyword .bang =>
      return .negation (← pipelineFrom fuel { Expectation.start with newlines := false } [])
    | _ =>
      push found
      pipelineFrom fuel {} []

/-- Reads the commands of a pipeline, and puts them behind `commands`, the last one first. -/
def pipelineFrom : Nat → Expectation → List Command → Reader Command
  | 0, _, _ => unexpected .endOfText none
  | fuel + 1, expectation, commands => do
    let next ← command fuel expectation
    let found ← token fuel {}
    match found with
    | .pipe => pipelineFrom fuel .start (next :: commands)
    | _ =>
      push found
      match commands with
      | [] => return next
      | _ => return .pipeline (next :: commands).reverse

/-- Reads a command. -/
def command : Nat → Expectation → Reader Command
  | 0, _ => unexpected .endOfText none
  | fuel + 1, expectation => do
    let line := (← get).line
    let found ← token fuel expectation
    match found with
    | .keyword .ifWord => redirected fuel line (← conditional fuel)
    | .keyword .whileWord => redirected fuel line (← loop fuel .whileTrue)
    | .keyword .untilWord => redirected fuel line (← loop fuel .untilTrue)
    | .keyword .forWord => redirected fuel line (← each fuel line)
    | .keyword .caseWord =>
      let subject ← token fuel {}
      match subject with
      | .word parts _ =>
        expect fuel .start (.keyword .inWord)
        redirected fuel line (.choice line parts (← arms fuel []))
      | _ => unexpected subject (some (.word [] false))
    | .openParenthesis =>
      let body ← list fuel .body []
      expect fuel {} .closeParenthesis
      let redirects ← redirects fuel { Expectation.start with newlines := false } []
      return .subshell line (.ofList body) redirects
    | .keyword .opening =>
      let body ← list fuel .body []
      expect fuel {} (.keyword .closing)
      redirected fuel line (.ofList body)
    | .word .. | .redirect .. | .document .. =>
      push found
      simple fuel (← get).line [] [] []
    | _ => unexpected found none

/-- Reads the redirections after a command, which for a subshell take the place of its own. -/
def redirected : Nat → Nat → Command → Reader Command
  | 0, _, body => return body
  | fuel + 1, line, body => do
    match ← redirects fuel { Expectation.start with newlines := false } [], body with
    | [], _ => return body
    | redirects, .subshell line body _ => return .subshell line body redirects
    | redirects, _ => return .redirected line body redirects

/-- Reads redirections, and puts them behind others, the last one first. -/
def redirects : Nat → Expectation → List Redirect → Reader (List Redirect)
  | 0, _, redirects => return redirects.reverse
  | fuel + 1, expectation, before => do
    let found ← token fuel expectation
    match found with
    | .redirect .. | .document .. => redirects fuel {} ((← target fuel found) :: before)
    | _ =>
      push found
      return before.reverse

/-- Reads the word after the sign of a redirection. -/
def target : Nat → Token → Reader Redirect
  | 0, found => unexpected found none
  | fuel + 1, sign => do
    match sign with
    | .redirect descriptor kind =>
      let found ← token fuel {}
      match found with
      | .word parts _ => return .mk descriptor kind parts
      | _ => unexpected found none
    | .document descriptor strips =>
      let found ← token fuel { mark := true }
      match found with
      | .word parts quoted => announceDocument descriptor strips parts quoted
      | _ => unexpected found none
    | _ => unexpected sign none

/-- Reads what follows `if` or `elif`, up to the end of the whole command. -/
def conditional : Nat → Reader Command
  | 0 => unexpected .endOfText none
  | fuel + 1 => do
    let condition ← list fuel .body []
    expect fuel {} (.keyword .thenWord)
    let whenTrue ← list fuel .body []
    let found ← token fuel {}
    match found with
    | .keyword .elifWord =>
      return .conditional (.ofList condition) (.ofList whenTrue) (some (← conditional fuel))
    | .keyword .elseWord =>
      let otherwise ← list fuel .body []
      expect fuel {} (.keyword .fi)
      return .conditional (.ofList condition) (.ofList whenTrue) (some (.ofList otherwise))
    | _ =>
      push found
      expect fuel {} (.keyword .fi)
      return .conditional (.ofList condition) (.ofList whenTrue) none

/-- Reads what follows `while` or `until`. -/
def loop : Nat → LoopKind → Reader Command
  | 0, _ => unexpected .endOfText none
  | fuel + 1, kind => do
    let condition ← list fuel .body []
    expect fuel {} (.keyword .doWord)
    let body ← list fuel .body []
    expect fuel {} (.keyword .done)
    return .loop kind (.ofList condition) (.ofList body)

/-- Reads what follows `for`. -/
def each : Nat → Nat → Reader Command
  | 0, _ => unexpected .endOfText none
  | fuel + 1, line => do
    match ← token fuel {} with
    | .word parts _ =>
      match (literal? parts).filter isName with
      | some name =>
        let found ← token fuel .start
        let words ←
          match found with
          | .keyword .inWord => some <$> words fuel []
          | .semicolon => pure none
          | _ =>
            push found
            pure none
        expect fuel .start (.keyword .doWord)
        let body ← list fuel .body []
        expect fuel {} (.keyword .done)
        return .each line name words (.ofList body)
      | none => fail .badLoopVariable
    | _ => fail .badLoopVariable

/-- Reads the words of a loop, and puts them behind others, the last one first. -/
def words : Nat → List Word → Reader (List Word)
  | 0, words => return words.reverse
  | fuel + 1, before => do
    let found ← token fuel {}
    match found with
    | .word parts _ => words fuel (parts :: before)
    | .newline | .semicolon => return before.reverse
    | _ => unexpected found none

/-- Reads the arms of a choice up to its end, and puts them behind others, the last one first. -/
def arms : Nat → List (List Word × Command) → Reader (List (List Word × Command))
  | 0, _ => unexpected .endOfText none
  | fuel + 1, before => do
    let found ← token fuel { newlines := true, keywords := true }
    match found with
    | .keyword .esac => return before.reverse
    | _ =>
      let first ←
        match found with
        | .openParenthesis => token fuel {}
        | _ => pure found
      let patterns ← patterns fuel [first.pattern]
      let body ← list fuel .substitution []
      let after := (patterns, Command.ofList body) :: before
      let found ← token fuel { newlines := true, keywords := true }
      match found with
      | .keyword .esac => return after.reverse
      | .endOfArm => arms fuel after
      | _ => unexpected found (some .endOfArm)

/-- Reads the patterns after the first one up to the closing parenthesis, and puts them behind
others, the last one first. -/
def patterns : Nat → List Word → Reader (List Word)
  | 0, _ => unexpected .endOfText none
  | fuel + 1, before => do
    let found ← token fuel {}
    match found with
    | .pipe => patterns fuel ((← token fuel {}).pattern :: before)
    | .closeParenthesis => return before.reverse
    | _ => unexpected found (some .closeParenthesis)

/-- Reads a command of words, or a function; what has been read of it is given, the last one first.
-/
def simple : Nat → Nat → List (Octets × Word) → List Word → List Redirect → Reader Command
  | 0, _, _, _, _ => unexpected .endOfText none
  | fuel + 1, line, assignments, words, redirects => do
    let found ← token fuel { aliases := words.isEmpty }
    match found with
    | .word parts _ =>
      match if words.isEmpty then assignmentWord? parts else none with
      | some assignment => simple fuel line (assignment :: assignments) words redirects
      | none => simple fuel line assignments (parts :: words) redirects
    | .redirect .. | .document .. =>
      simple fuel line assignments words ((← target fuel found) :: redirects)
    | _ =>
      match found, assignments, words, redirects with
      | .openParenthesis, [], [name], [] => function fuel name
      | _, _, _, _ =>
        push found
        return .simple line assignments.reverse words.reverse redirects.reverse

/-- Reads what follows the opening parenthesis after the name of a function. -/
def function : Nat → Word → Reader Command
  | 0, _ => unexpected .endOfText none
  | fuel + 1, name => do
    expect fuel {} .closeParenthesis
    match (literal? name).filter fun text => isName text && !specialCommands.contains text with
    | some text =>
      let line := (← get).line
      return .function line text (← command fuel .start)
    | none => fail .badFunctionName

end

end Reader

namespace Source

/-- More than the depth to which the commands of a text can be nested. -/
def fuel (source : Source) : Nat :=
  16 * source.rest.length + 256

/-- Whether everything has been read. -/
def isAtEnd (source : Source) : Bool :=
  match source.pushed with
  | some .endOfText => true
  | _ => false

/-- The commands on the next line of a script, or nothing at its end. -/
def nextCommand? (source : Source) :
    Except (Nat × ScriptFault) (Option Command × Source) := do
  let source := { source with pushed := none }
  let (commands, after) ← (Reader.list source.fuel .line []).run source
  if commands.isEmpty && after.isAtEnd then return (none, after)
  else return (some (.ofList commands), after)

end Source

end TapeAdmin.Shell
