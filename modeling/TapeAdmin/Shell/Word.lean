import TapeAdmin.Shell.Source

/-!
# Reading words

The parts of a word, with the quotes and braces that hold them together. How commands inside a word
are read is a parameter, because commands are made of words in turn.
-/

namespace TapeAdmin.Shell

/-- What surrounds the text that is read. -/
inductive Surrounding where
  /-- Nothing; a blank or a sign ends the word. -/
  | plain
  /-- Nothing; the word is the mark of a document, in which a dollar sign stands for itself. -/
  | mark
  | quotes (inBraces : Bool)
  /-- The braces of a parameter outside quotes, or a pattern in them. -/
  | braces
  /-- The braces of a parameter inside quotes; `inner` holds between further quotes in them. -/
  | quotedBraces (inner : Bool)
  /-- The parentheses of an expression, with the number of those that are open inside. -/
  | arithmetic (depth : Nat)
  | document
  deriving DecidableEq, Repr

namespace Surrounding

/-- Whether the text is quoted by what surrounds it. -/
def quotes? : Surrounding → Bool
  | .plain | .mark | .braces => false
  | .quotes _ | .quotedBraces _ | .arithmetic _ | .document => true

/-- Whether a backslash is left out in front of a character that quotes do not touch otherwise. -/
def escapes (around : Surrounding) (char : Char) : Bool :=
  ['\\', '\x60', '$'].contains char ||
    match around with
    | .plain | .mark | .braces => true
    | .quotes inBraces => char == '"' || (inBraces && char == '\x7d')
    | .quotedBraces _ => char == '"' || char == '\x7d'
    | .arithmetic _ => char == '"'
    | .document => false

/-- The fault of a text that ends here; some texts may end here. -/
def fault? : Surrounding → Option ScriptFault
  | .plain | .mark | .document => none
  | .quotes _ | .quotedBraces _ => some .openQuote
  | .braces => some .openBraces
  | .arithmetic _ => some .openArithmetic

/-- Whether a character ends the text and belongs to what surrounds it. -/
def closedBy (around : Surrounding) (char : Char) : Bool :=
  match around with
  | .quotes _ => char == '"'
  | .braces => char == '\x7d'
  | .quotedBraces inner => char == '\x7d' && !inner
  | .plain | .mark | .arithmetic _ | .document => false

/-- A character that ends a word. -/
def endsWord (char : Char) : Bool :=
  [' ', '\t', '\n', ';', '&', '|', '<', '>', '(', ')'].contains char

/-- Whether a character ends the text and does not belong to it. -/
def stoppedBy (around : Surrounding) (char : Char) : Bool :=
  match around with
  | .plain | .mark => endsWord char
  | _ => false

/-- What surrounds the word inside the braces of a parameter that stands here. -/
def inside (around : Surrounding) : ParameterUse → Surrounding
  | .trim .. => .braces
  | _ => if around.quotes? then .quotedBraces false else .braces

end Surrounding

/-- The parameters whose names are one sign. -/
def isSpecialParameter (char : Char) : Bool :=
  ['#', '$', '*', '-', '?', '@', '!'].contains char || char.isDigit

/-- Adds text after the parts of a word, the last of which comes first. -/
def addText (quoted : Bool) (text : Octets) : List WordPart → List WordPart
  | .text other before :: parts =>
    if other == quoted then .text other (before ++ text) :: parts
    else .text quoted text :: .text other before :: parts
  | parts => .text quoted text :: parts

namespace Reader

/-- Reads the characters up to a single quote as they are; `fuel` bounds their number. -/
def takeSingleQuoted : Nat → List Char → Reader Octets
  | 0, _ => fail .openQuote
  | fuel + 1, chars => do
    match ← peekRaw with
    | none => fail .openQuote
    | some char =>
      advance
      if char == '\'' then return String.ofList chars.reverse
      else takeSingleQuoted fuel (char :: chars)

/-- Reads the text of a command between backquotes; `fuel` bounds its length. -/
def takeBackquoted (quoted : Bool) : Nat → List Char → Reader (List Char)
  | 0, _ => fail .openBackquote
  | fuel + 1, chars => do
    match ← peek with
    | none => fail .openBackquote
    | some '\x60' =>
      advance
      return chars.reverse
    | some '\\' =>
      advance
      match ← peekRaw with
      | none => fail .openBackquote
      | some char =>
        advance
        let plain := ['\\', '\x60', '$'].contains char || (quoted && char == '"')
        takeBackquoted quoted fuel (if plain then char :: chars else char :: '\\' :: chars)
    | some char =>
      advance
      takeBackquoted quoted fuel (char :: chars)

/-- The kinds of alternatives by their signs. -/
def alternativeKind? : Char → Option AlternativeKind
  | '-' => some .replace
  | '=' => some .assign
  | '?' => some .demand
  | '+' => some .whenPresent
  | _ => none

/-- Reads the sign after the name of a parameter in braces, and says what the word after it is for.
Without a word, the closing brace is still to be read. -/
def takeUse : Reader (ParameterUse × Bool) := do
  match ← peek with
  | some '\x7d' => return (.value, false)
  | some ':' =>
    advance
    match ← peek with
    | some char =>
      advance
      match alternativeKind? char with
      | some kind => return (.alternative kind true [], true)
      | none => return (.unknown, true)
    | none => return (.unknown, true)
  | some '%' =>
    advance
    return (.trim .back (← accept '%') [], true)
  | some '#' =>
    advance
    return (.trim .front (← accept '#') [], true)
  | some char =>
    advance
    match alternativeKind? char with
    | some kind => return (.alternative kind false [], true)
    | none => return (.unknown, true)
  | none => return (.unknown, true)

/-- Reads the rest of a parameter in braces after `#` where its length is asked for. -/
def takeLength (name : Octets) : Reader (Octets × ParameterUse × Bool) := do
  if (← peek) == some '\x7d' then return (name, .length, false) else return (name, .unknown, true)

/-- Reads the name of a parameter in braces, and what is made of its value. -/
def takeParameter : Reader (Octets × ParameterUse × Bool) := do
  match ← peek with
  | some '#' =>
    advance
    match (← get).rest with
    | char :: '\x7d' :: _ =>
      if isSpecialParameter char then
        advance
        return (char.toString, .length, false)
      else if isNameStart char then takeLength (← takeName)
      else
        let (use, hasWord) ← takeUse
        return ("#", use, hasWord)
    | char :: _ =>
      if char.isDigit then
        takeLength (String.ofList (← takeWhile Char.isDigit ((← get).rest.length)))
      else if isNameStart char then takeLength (← takeName)
      else
        let (use, hasWord) ← takeUse
        return ("#", use, hasWord)
    | [] => return ("#", .unknown, true)
  | some char =>
    if isNameStart char then
      let name ← takeName
      return (name, ← takeUse)
    else if char.isDigit then
      let name := String.ofList (← takeWhile Char.isDigit ((← get).rest.length))
      return (name, ← takeUse)
    else if isSpecialParameter char then
      advance
      return (char.toString, ← takeUse)
    else if char == '\x7d' then return ("", .unknown, true)
    else
      advance
      return ("", .unknown, true)
  | none => return ("", .unknown, true)

/-- Puts the word into what is made of a parameter. -/
def withWord (word : Word) : ParameterUse → ParameterUse
  | .alternative kind orEmpty _ => .alternative kind orEmpty word
  | .trim side longest _ => .trim side longest word
  | use => use

/-- The parts between double quotes. Quotes around nothing but all parameters make no word of their
own where there are none. -/
def quotedParts : List WordPart → List WordPart
  | [.parameter true "@" .value] => [.parameter true "@" .value]
  | parts => .text true "" :: parts

mutual

/--
Reads parts up to the end of what surrounds them, and puts them in front of `parts`, the last one
first. `command` reads the command inside parentheses or, to the end of the text, inside backquotes;
`fuel` bounds the number of characters.
-/
def takeParts (command : (closed : Bool) → Reader Command) :
    Nat → Surrounding → List WordPart → Reader (List WordPart)
  | 0, around, parts => match around.fault? with
    | some fault => fail fault
    | none => return parts
  | fuel + 1, around, parts => do
    let quoted := around.quotes?
    match ← peek with
    | none =>
      match around.fault? with
      | some fault => fail fault
      | none => return parts
    | some char =>
      if around.stoppedBy char then return parts
      else
        advance
        if around.closedBy char then return parts
        else
          match char, around with
          | '\\', _ =>
            match ← peekRaw with
            | none => takeParts command fuel around (addText true "\\" parts)
            | some escaped =>
              advance
              let text :=
                if around.escapes escaped then escaped.toString
                else String.ofList ['\\', escaped]
              takeParts command fuel around (addText true text parts)
          | '$', .mark => takeParts command fuel around (addText quoted "$" parts)
          | '$', _ => takeParts command fuel around (← takeDollar command fuel around parts)
          | '\x60', _ =>
            let chars ← takeBackquoted quoted ((← get).rest.length + 1) []
            let inner ← reading chars (command false)
            takeParts command fuel around (.output quoted inner :: parts)
          | '"', .quotedBraces inner => takeParts command fuel (.quotedBraces (!inner)) parts
          | '(', .arithmetic depth =>
            takeParts command fuel (.arithmetic (depth + 1)) (addText true "(" parts)
          | ')', .arithmetic (depth + 1) =>
            takeParts command fuel (.arithmetic depth) (addText true ")" parts)
          | ')', .arithmetic 0 =>
            if ← accept ')' then return parts
            else takeParts command fuel around (addText true ")" parts)
          | _, _ =>
            if char == '\'' && !quoted then
              let text ← takeSingleQuoted ((← get).rest.length + 1) []
              takeParts command fuel around (addText true text parts)
            else if char == '"' && !quoted then
              let inside ← takeParts command fuel (.quotes (around == .braces)) []
              takeParts command fuel around ((quotedParts inside.reverse).reverse ++ parts)
            else takeParts command fuel around (addText quoted char.toString parts)

/-- Reads what follows a dollar sign; a dollar sign before anything else stands for itself. -/
def takeDollar (command : (closed : Bool) → Reader Command) :
    Nat → Surrounding → List WordPart → Reader (List WordPart)
  | 0, _, parts => return parts
  | fuel + 1, around, parts => do
    let quoted := around.quotes?
    match ← peek with
    | some '(' =>
      advance
      if ← accept '(' then
        let inside ← takeParts command fuel (.arithmetic 0) []
        return .arithmetic quoted inside.reverse :: parts
      else return .output quoted (← command true) :: parts
    | some '\x7b' =>
      advance
      let (name, use, hasWord) ← takeParameter
      if hasWord then
        let inside ← takeParts command fuel (around.inside use) []
        return .parameter quoted name (withWord inside.reverse use) :: parts
      else
        advance
        return .parameter quoted name use :: parts
    | some char =>
      if isNameStart char then return .parameter quoted (← takeName) .value :: parts
      else if isSpecialParameter char then
        advance
        return .parameter quoted char.toString .value :: parts
      else return addText quoted "$" parts
    | none => return addText quoted "$" parts

end

end Reader

end TapeAdmin.Shell
