import TapeAdmin.Toml.Number
import TapeAdmin.Toml.Table
import TapeAdmin.Toml.Text

/-!
# TOML documents

Values, keys and lines, and the reading of a whole document into the table that it describes. Values
may be nested less than eighty levels deep.
-/

namespace TapeAdmin.Toml

namespace Reader

/-- The limit on the nesting of values and on the length of dotted keys. -/
def depthLimit : Nat := 80

/-- The cause of a value or a key past the limit. -/
def tooDeep : String := "recursion limit exceeded"

/-! ## Keys -/

/-- A key without dots. -/
def simpleKey : Reader Key := do
  let (chars, span) ← spanned do
    match ← peek? with
    | some '"' => basicText
    | some '\'' => literalText
    | _ => takeSome Key.isBareChar
  pure ⟨String.ofList chars, span⟩

/-- A dotted key as the keys before the last and the last, with blanks around the dots. -/
def keyPath : Reader (List Key × Key) :=
  let part : Reader Key := do
    spaces
    let key ← simpleKey
    spaces
    pure key
  refine (named "key" (separated part (expect "."))) fun keys =>
    match keys.getLast? with
    | some key => if keys.length < depthLimit then .ok (keys.dropLast, key) else .error tooDeep
    | none => .error tooDeep

/-- A dotted key and the value after its equals sign. -/
def entry (item : Reader Value) : Reader ((List Key × Key) × Value) := do
  let path ← keyPath
  final do
    wantingMarks [".", "="] (expect "=")
    spaces
    let value ← item
    pure (path, value)

/-! ## Values -/

/-- The values of a list between its brackets, given how to read one. A comma may follow the last.
-/
def listItems (item : Reader Value) : Reader (List Value) := do
  let items ← attempt do
    let items ← separated (do gap; let value ← item; gap; pure value) (expect ",")
    discard (attempt (expect ","))
    pure items
  gap
  pure (items.getD [])

/-- The entries of a table between its braces, given how to read a value. -/
def tableEntries (item : Reader Value) : Reader Entries :=
  let line : Reader ((List Key × Key) × Value) := do
    let entry ← entry item
    spaces
    pure entry
  refine (do
    let entries ← attempt (separated line (expect ","))
    spaces
    pure (entries.getD [])) fun entries =>
      entries.foldlM (fun table ((path, key), value) =>
        Entries.addDotted .braces path key value (Entries.duplicate key) .braces table) []

/-- Refuses to read anything inside a value. -/
def nothingInside {α : Type} : Reader α := do
  blame (← here) tooDeep

/-- What might be meant by a word that is no value. -/
def wantingText {α : Type} (reader : Reader α) : Reader α :=
  named "string" (wantingMarks ["\"", "'"] reader)

/-- A value that starts with a given character, given how to read what is between brackets and
between braces. Its span is still to be filled in. -/
def valueFrom (items : Reader (List Value)) (entries : Reader Entries) (char : Char) :
    Reader (Span → Value) := do
  if char = '"' || char = '\'' then
    let content ← text
    pure fun span => .text span content
  else if char = '[' then
    expect "["
    let items ← final items
    named "array" (wantingMarks ["]"] (final (expect "]")))
    pure fun span => .list span false items
  else if char = '\x7b' then
    expect "\x7b"
    let entries ← final entries
    named "inline table" (wantingMarks ["\x7d"] (final (expect "\x7d")))
    pure fun span => .table span .braces entries
  else if char.isDigit || char = '+' || char = '-' then
    either
      (do
        let written ← taken moment
        pure fun span => .moment span (String.ofList written))
      (either
        (do
          let number ← float
          pure fun span => .float span number)
        do
          let number ← integer
          pure fun span => .integer span number)
  else if char = '_' then
    let number ← wanting "leading digit" integer
    pure fun span => .integer span number
  else if char = '.' then
    let number ← wanting "leading digit" float
    pure fun span => .float span number
  else if char = 't' then
    wantingText (final (expect "true"))
    pure fun span => .boolean span true
  else if char = 'f' then
    wantingText (final (expect "false"))
    pure fun span => .boolean span false
  else
    let number ← wantingText specialFloat
    pure fun span => .float span number

/-- A value with at most a number of levels inside it. -/
def value : (levels : Nat) → Reader Value
  | 0 => valueWith nothingInside nothingInside
  | levels + 1 => valueWith (listItems (value levels)) (tableEntries (value levels))
where
  /-- A value, given how to read what is between brackets and between braces. -/
  valueWith (items : Reader (List Value)) (entries : Reader Entries) : Reader Value := do
    match ← peek? with
    | some char =>
      let (fill, span) ← spanned (valueFrom items entries char)
      pure (fill span)
    | none => mismatch

/-! ## Lines -/

/-- A line with a key and a value, in the table that the last header opened. What is wrong with it
is blamed on its start. -/
def entryLine (opened : List Key) (entries : Entries) : Reader Entries :=
  refine (do
    let entry ← entry (value (depthLimit - 1))
    lineRest
    pure entry) fun ((path, key), value) => do
      let add := Entries.addDotted .line path key value (Entries.duplicateIn key.text opened)
      let entries ← Entries.changeAt .header add [] opened .header entries
      .ok (Entries.stretch value.span.stop opened entries)

/-- The key of a header between its brackets, and the bytes from one to the other. -/
def headerKey (opening closing : String) : Reader ((List Key × Key) × Span) :=
  spanned do
    expect opening
    let path ← final keyPath
    wantingMarks [".", closing] (final (expect closing))
    pure path

/-- A line with a header, as the keys of the table it opens and the entries with that table. What is
wrong with it is blamed on its start. -/
def headerLine (entries : Entries) : Reader (List Key × Entries) :=
  named "table header" do
    match (← remaining).take 2 with
    | [_] => mismatch
    | first =>
      let isList := first == ['[', '[']
      refine (do
        let header ← if isList then headerKey "[[" "]]" else headerKey "[" "]"
        lineRest
        pure header) fun ((path, key), span) => do
          let entries ←
            if isList then Entries.openListTable span path key .header entries
            else Entries.openTable span path key .header entries
          .ok (path ++ [key], entries)

/-- The lines of a document, given the table that the last header opened and the entries so far. -/
def lines : (fuel : Nat) → (opened : List Key) → Entries → Reader Entries
  | 0, _, entries => pure entries
  | fuel + 1, opened, entries => do
    spaces
    match ← peek? with
    | none => pure entries
    | some '#' =>
      comment
      lineEnd
      lines fuel opened entries
    | some '\n' | some '\r' =>
      if (← attempt newline).isNone then mismatch
      lines fuel opened entries
    | some '[' =>
      let (opened, entries) ← headerLine entries
      lines fuel opened entries
    | some _ =>
      let entries ← entryLine opened entries
      lines fuel opened entries

end Reader

/-- Reads a document into the entries of its table. A byte order mark at its start is skipped. -/
def parse (document : String) : Except Fault Entries :=
  let chars := document.toList
  let cursor : Cursor :=
    match chars with
    | '\ufeff' :: rest => ⟨3, rest⟩
    | _ => ⟨0, chars⟩
  match Reader.lines (chars.length + 1) [] [] cursor with
  | .ok (entries, _) => .ok entries
  | .error mismatch => .error mismatch.fault

end TapeAdmin.Toml
