import TapeAdmin.Text.Digits
import TapeAdmin.Text.Double
import TapeAdmin.Text.Utf8

/-!
# TOML values

The data in a TOML document. Every value and key remembers from which bytes of the document it was
read, so that a fault found later can point at them. A table also remembers how it came to be,
because that decides whether later lines may add to it.
-/

namespace TapeAdmin.Toml

/-- The bytes of a document from one offset up to another. -/
structure Span where
  start : Nat
  stop : Nat
  deriving DecidableEq, Repr, Inhabited

/-- What is wrong with a document, and where. -/
structure Fault where
  span : Span
  message : String
  deriving DecidableEq, Repr

/-- A key. -/
structure Key where
  text : String
  span : Span
  deriving DecidableEq, Repr

namespace Key

/-- A character of a key without quotes. -/
def isBareChar (char : Char) : Bool :=
  char.isAlphanum || char == '-' || char == '_'

/-- A control character. -/
def isControl (char : Char) : Bool :=
  char.toNat < 0x20 || char == '\x7f'

/-- A character between double quotes. -/
def escapedChar (char : Char) : List Char :=
  match char with
  | '\x08' => ['\\', 'b']
  | '\t' => ['\\', 't']
  | '\n' => ['\\', 'n']
  | '\x0c' => ['\\', 'f']
  | '\r' => ['\\', 'r']
  | '"' => ['\\', '"']
  | '\\' => ['\\', '\\']
  | char =>
    if isControl char then
      ['\\', 'u', '0', '0', Text.hexDigitUpper (char.toNat / 16),
        Text.hexDigitUpper (char.toNat % 16)]
    else [char]

/-- A key as it could be written in a document: without quotes, else between double quotes with
nothing to escape, else between single quotes, else between double quotes. -/
def written (key : Key) : String :=
  let chars := key.text.toList
  let plain := !chars.any isControl
  if !chars.isEmpty && chars.all isBareChar then key.text
  else if plain && !chars.contains '"' && !chars.contains '\\' then "\"" ++ key.text ++ "\""
  else if plain && !chars.contains '\'' then "'" ++ key.text ++ "'"
  else "\"" ++ String.ofList (chars.flatMap escapedChar) ++ "\""

end Key

/-- How a table came to be. -/
inductive TableOrigin where
  /-- By a header of its own, or as the document itself. -/
  | header
  /-- By a header of a table inside it. -/
  | innerHeader
  /-- By a dotted key. -/
  | dottedKey
  /-- Between braces, closed to later additions. -/
  | braces
  deriving DecidableEq, Repr

/-- Whether a table has no place of its own in the document. It has the place of its key then. -/
def TableOrigin.isImplied (origin : TableOrigin) : Bool :=
  origin == .innerHeader || origin == .dottedKey

/-- A value. -/
inductive Value where
  | text (span : Span) (text : String)
  | integer (span : Span) (number : Int)
  | float (span : Span) (number : Text.Double)
  | boolean (span : Span) (value : Bool)
  /-- A date, a time or both, as written. -/
  | moment (span : Span) (written : String)
  /-- A list of values; `ofTables` marks a list that headers in double brackets make. -/
  | list (span : Span) (ofTables : Bool) (items : List Value)
  | table (span : Span) (origin : TableOrigin) (entries : List (Key × Value))
  deriving Repr

/-- The entries of a table. -/
abbrev Entries := List (Key × Value)

namespace Value

/-- Where a value was read. -/
def span : Value → Span
  | text span _ | integer span _ | float span _ | boolean span _ | moment span _ | list span _ _
  | table span _ _ => span

/-- The word for the kind of a value. -/
def kindWord : Value → String
  | text .. => "string"
  | integer .. => "integer"
  | float .. => "float"
  | boolean .. => "boolean"
  | moment .. => "datetime"
  | list _ false _ => "array"
  | list _ true _ => "array of tables"
  | table _ .braces _ => "inline table"
  | table .. => "table"

end Value

/-- The value of a key. -/
def Entries.get? (entries : Entries) (key : String) : Option Value :=
  (entries.find? fun entry => entry.1.text == key).map Prod.snd

/--
How a line of a document is shown under a fault: its number, its text, and a mark. The column counts
characters, but bytes where the fault points at a character of several bytes.
-/
def Fault.excerpt (fault : Fault) (document : String) : String :=
  let bytes := document.toUTF8.data.toList
  let last := bytes.length - 1
  let index := min fault.span.start last
  let beyond := if bytes.isEmpty then fault.span.start else fault.span.start - index
  let before := bytes.take index
  let lineNumber := before.count 10
  let lineStart := index - (before.reverse.takeWhile (· != 10)).length
  let column := beyond +
    match Text.ofUtf8? ((bytes.take (index + 1)).drop lineStart) with
    | some before => before.length - 1
    | none => index - lineStart
  let content := ((document.toList.splitOn '\n')[lineNumber]?).getD []
  let shown := String.ofList content
  let marks := min (fault.span.stop - fault.span.start) (shown.utf8ByteSize - column)
  let number := toString (lineNumber + 1)
  let gutter := String.ofList (List.replicate (number.length + 1) ' ')
  "TOML parse error at line " ++ number ++ ", column " ++ toString (column + 1) ++ "\n" ++
    gutter ++ "|\n" ++ number ++ " | " ++ shown ++ "\n" ++ gutter ++ "|" ++
    String.ofList (List.replicate (column + 1) ' ' ++ List.replicate (max marks 1) '^') ++ "\n"

/-- A fault with the place it points at. -/
def Fault.render (fault : Fault) (document : String) : String :=
  fault.excerpt document ++ fault.message ++ "\n"

end TapeAdmin.Toml
