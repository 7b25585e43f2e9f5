import TapeAdmin.Toml.Moment

/-!
# TOML texts

Texts in double quotes, where a backslash starts an escape, and in single quotes, where nothing
does; either kind may span lines when its quotes are tripled.
-/

namespace TapeAdmin.Toml.Reader

/-- The character whose number is written in a given count of hexadecimal digits. -/
def numberedChar (count : Nat) : Reader Char :=
  named ("unicode " ++ toString count ++ "-digit hex code") do
    let place ← here
    let candidates := (← remaining).take count
    match Text.ofDigits? 16 candidates with
    | some number =>
      if candidates.length < count then mismatch
      else if number.isValidChar then
        discard (take count)
        pure (Char.ofNat number)
      else blame place outOfRange
    | none => mismatch

/-- The letters that may follow a backslash. -/
def escapeLetters : List String :=
  ["b", "f", "n", "r", "t", "u", "U", "\\", "\""]

/-- The character that an escape stands for. An unknown letter is blamed on what is a byte after its
start. -/
def escaped : Reader Char := do
  expect "\\"
  let place ← here
  match ← one fun _ => true with
  | 'b' => pure '\x08'
  | 'f' => pure '\x0c'
  | 'n' => pure '\n'
  | 'r' => pure '\r'
  | 't' => pure '\t'
  | '\\' => pure '\\'
  | '"' => pure '"'
  | 'u' => final (numberedChar 4)
  | 'U' => final (numberedChar 8)
  | letter =>
    let place ← if letter.utf8Size = 1 then here else pure place
    final (named "escape sequence" (wantingMarks escapeLetters (mismatchAt place)))

/-- A character that stands for itself in a text on one line. -/
def isPlainIn (quote : Char) (char : Char) : Bool :=
  isPrinting char && char != quote && !(quote == '"' && char == '\\')

/-- A text in double quotes on one line. -/
def basicText : Reader (List Char) := do
  expect "\""
  let parts ← many (either (takeSome (isPlainIn '"')) (do pure [← escaped]))
  named "basic string" (final (expect "\""))
  pure parts.flatten

/-- A text in single quotes on one line. -/
def literalText : Reader (List Char) := do
  expect "'"
  let chars ← takeWhile (isPlainIn '\'')
  named "literal string" (final (expect "'"))
  pure chars

/-- The end of a line inside a text. -/
def innerNewline : Reader (List Char) := do
  newline
  pure ['\n']

/-- Takes backslashes that end lines, and the blanks and lines without text after each. -/
def joinedLines : Reader (List Char) := do
  discard (oneOrMore do
    expect "\\"
    spaces
    newline
    discard (many (either newline (discard (takeSome isSpace)))))
  pure []

/-- One or two quotes inside a text, before something that a reader reads. -/
def innerQuotes (quote : Char) (next : Reader Unit) : Reader (List Char) :=
  let quotes (count : Nat) : Reader (List Char) := do
    let chars := List.replicate count quote
    expect (String.ofList chars)
    ahead next
    pure chars
  either (quotes 2) (quotes 1)

/-- Quotes inside a text that do not end it. -/
def quotesBeforeText (quote : Char) : Reader (List Char) :=
  innerQuotes quote (discard (one (· != quote)))

/-- Quotes at the end of a text, right before the three that end it. -/
def quotesBeforeEnd (quote : Char) : Reader (List Char) := do
  let quotes ← attempt (innerQuotes quote (expect (String.ofList (List.replicate 3 quote))))
  pure (quotes.getD [])

/-- A part without quotes of a text in double quotes that spans lines. -/
def multilineBasicPart : Reader (List Char) :=
  either (takeSome (isPlainIn '"'))
    (either joinedLines (either (do pure [← escaped]) innerNewline))

/-- A text in double quotes that spans lines. -/
def multilineBasicText : Reader (List Char) :=
  named "multiline basic string" do
    expect "\"\"\""
    final do
      discard (attempt newline)
      let start ← many multilineBasicPart
      let middle ← many do
        let quotes ← quotesBeforeText '"'
        let parts ← many multilineBasicPart
        if parts.isEmpty then final mismatch
        pure (quotes ++ parts.flatten)
      let stop ← quotesBeforeEnd '"'
      expect "\"\"\""
      pure (start.flatten ++ middle.flatten ++ stop)

/-- A part without quotes of a text in single quotes that spans lines. -/
def multilineLiteralPart : Reader (List Char) :=
  either (takeSome (isPlainIn '\'')) innerNewline

/-- A text in single quotes that spans lines. -/
def multilineLiteralText : Reader (List Char) :=
  named "multiline literal string" do
    expect "'''"
    final do
      discard (attempt newline)
      let start ← many multilineLiteralPart
      let middle ← many do
        let quotes ← quotesBeforeText '\''
        let parts ← oneOrMore multilineLiteralPart
        pure (quotes ++ parts.flatten)
      let stop ← quotesBeforeEnd '\''
      expect "'''"
      pure (start.flatten ++ middle.flatten ++ stop)

/-- A text of any kind. -/
def text : Reader String := do
  let chars ← either multilineBasicText
    (either basicText (either multilineLiteralText literalText))
  pure (String.ofList chars)

end TapeAdmin.Toml.Reader
