import TapeAdmin.Text.Digits
import TapeAdmin.Toml.Value

/-!
# Reading characters

A reader takes characters from the front of a document and keeps count of the bytes it has taken.
Where it cannot go on there is a mismatch. A mismatch is final or not: only if it is not, another
way of reading the same characters is tried. The place of the last mismatch is where the document is
at fault.
-/

namespace TapeAdmin.Toml

/-- The rest of a document, and how many bytes come before it. -/
structure Cursor where
  offset : Nat
  rest : List Char

/-- The span of the next character, or the empty span at the end of the document. -/
def Cursor.here (cursor : Cursor) : Span :=
  match cursor.rest with
  | char :: _ => ⟨cursor.offset, cursor.offset + char.utf8Size⟩
  | [] => ⟨cursor.offset, cursor.offset⟩

/-- The cursor behind characters that have been taken. -/
def Cursor.behind (cursor : Cursor) (taken rest : List Char) : Cursor :=
  ⟨taken.foldl (fun offset char => offset + char.utf8Size) cursor.offset, rest⟩

/-- Why a reader does not go on. -/
structure Mismatch where
  place : Span
  /-- No other way of reading is tried. -/
  isFinal : Bool := false
  /-- What was being read. -/
  label : Option String := none
  /-- What could have come next. -/
  expected : List String := []
  /-- What is wrong with what has been read. -/
  cause : Option String := none
  deriving Repr

/-- The wording of a mismatch: a line for each thing that is known about it. -/
def Mismatch.message (mismatch : Mismatch) : String :=
  let label := mismatch.label.map fun label => "invalid " ++ label
  let expected :=
    if mismatch.expected.isEmpty then none
    else some ("expected " ++ String.intercalate ", " mismatch.expected)
  String.intercalate "\n" ([label, expected, mismatch.cause].filterMap id)

/-- A mismatch as the fault of a document. -/
def Mismatch.fault (mismatch : Mismatch) : Fault :=
  ⟨mismatch.place, mismatch.message⟩

/-- A procedure that reads from the front of a document. -/
abbrev Reader := StateT Cursor (Except Mismatch)

namespace Reader

variable {α β : Type}

/-! ## Mismatches -/

/-- Does not go on at the place that has been reached. -/
def mismatch : Reader α := fun cursor => .error { place := cursor.here }

/-- Does not go on because of what is at another place. -/
def mismatchAt (place : Span) : Reader α := fun _ => .error { place := place }

/-- Does not go on because something is wrong with what has been read at a place. -/
def blame (place : Span) (cause : String) : Reader α := fun _ =>
  .error { place := place, cause := some cause }

/-- Adds to what is known about a mismatch. -/
def adding (change : Mismatch → Mismatch) (reader : Reader α) : Reader α := fun cursor =>
  (reader cursor).mapError change

/-- Makes any mismatch final. -/
def final (reader : Reader α) : Reader α :=
  reader.adding fun mismatch => { mismatch with isFinal := true }

/-- Says what is being read. The innermost label stays. -/
def named (label : String) (reader : Reader α) : Reader α :=
  reader.adding fun mismatch => { mismatch with label := mismatch.label.or (some label) }

/-- Says what could come next. -/
def wanting (word : String) (reader : Reader α) : Reader α :=
  reader.adding fun mismatch => { mismatch with expected := mismatch.expected ++ [word] }

/-- Says which marks could come next. -/
def wantingMarks (marks : List String) (reader : Reader α) : Reader α :=
  reader.adding fun mismatch =>
    { mismatch with expected := mismatch.expected ++ marks.map fun mark => "`" ++ mark ++ "`" }

/-! ## Ways of reading -/

/-- Reads if that is possible; else nothing is taken. -/
def attempt (reader : Reader α) : Reader (Option α) := fun cursor =>
  match reader cursor with
  | .ok (result, after) => .ok (some result, after)
  | .error mismatch => if mismatch.isFinal then .error mismatch else .ok (none, cursor)

/-- Reads in a second way if the first is not possible. -/
def either (first second : Reader α) : Reader α := fun cursor =>
  match first cursor with
  | .ok result => .ok result
  | .error mismatch => if mismatch.isFinal then .error mismatch else second cursor

/-- Reads without taking anything. -/
def ahead (reader : Reader α) : Reader α := fun cursor =>
  (reader cursor).map fun (result, _) => (result, cursor)

/-- Reads, and makes something of what has been read. What is wrong with it is blamed on its start.
-/
def refine (reader : Reader α) (convert : α → Except String β) : Reader β := fun cursor => do
  let (result, after) ← reader cursor
  match convert result with
  | .ok refined => .ok (refined, after)
  | .error cause => .error { place := cursor.here, cause := some cause }

/-- The characters that are left. -/
def remaining : Reader (List Char) := fun cursor => .ok (cursor.rest, cursor)

/-- Items one after the other, at most as many as there are characters in a list. -/
def manyWithin (item : Reader α) : (limit : List Char) → Reader (List α)
  | [] => pure []
  | _ :: limit => do
    match ← attempt item with
    | none => pure []
    | some first =>
      let others ← manyWithin item limit
      pure (first :: others)

/-- Items one after the other, as many as there are. Each takes at least a character. -/
def many (item : Reader α) : Reader (List α) := do
  manyWithin item (← remaining)

/-- One or more items one after the other. -/
def oneOrMore (item : Reader α) : Reader (List α) := do
  let first ← item
  let others ← many item
  pure (first :: others)

/-- One or more items with separators between them. A separator that no item follows is left. -/
def separated (item : Reader α) (separator : Reader Unit) : Reader (List α) := do
  let first ← item
  let others ← many (do separator; item)
  pure (first :: others)

/-! ## Characters -/

/-- The next character. -/
def peek? : Reader (Option Char) := fun cursor => .ok (cursor.rest.head?, cursor)

/-- The place that has been reached. -/
def here : Reader Span := fun cursor => .ok (cursor.here, cursor)

/-- How many bytes have been taken. -/
def offset : Reader Nat := fun cursor => .ok (cursor.offset, cursor)

/-- Takes a number of characters. -/
def take (count : Nat) : Reader (List Char) := fun cursor =>
  let taken := cursor.rest.take count
  .ok (taken, cursor.behind taken (cursor.rest.drop count))

/-- Takes characters as long as they pass a test. -/
def takeWhile (test : Char → Bool) : Reader (List Char) := fun cursor =>
  let taken := cursor.rest.takeWhile test
  .ok (taken, cursor.behind taken (cursor.rest.dropWhile test))

/-- Takes characters as long as they pass a test, and at least one. -/
def takeSome (test : Char → Bool) : Reader (List Char) := do
  let taken ← takeWhile test
  if taken.isEmpty then mismatch else pure taken

/-- Takes a character that passes a test. -/
def one (test : Char → Bool) : Reader Char := do
  match ← peek? with
  | some char =>
    if test char then
      discard (take 1)
      pure char
    else mismatch
  | none => mismatch

/-- Takes a word. -/
def expect (word : String) : Reader Unit := fun cursor =>
  if word.toList.isPrefixOf cursor.rest then
    .ok ((), ⟨cursor.offset + word.utf8ByteSize, cursor.rest.drop word.length⟩)
  else .error { place := cursor.here }

/-- The characters at the start of a list that make up a number of bytes. -/
def charsOfBytes (bytes : Nat) : List Char → List Char
  | [] => []
  | char :: chars =>
    if bytes = 0 then [] else char :: charsOfBytes (bytes - char.utf8Size) chars

/-- The characters that a reader takes. -/
def taken (reader : Reader Unit) : Reader (List Char) := fun cursor => do
  let ((), after) ← reader cursor
  .ok (charsOfBytes (after.offset - cursor.offset) cursor.rest, after)

/-- What a reader reads, and the bytes that it takes. -/
def spanned (reader : Reader α) : Reader (α × Span) := do
  let start ← offset
  let result ← reader
  pure (result, ⟨start, ← offset⟩)

end Reader

/-! ## Blanks, lines and comments -/

/-- A character that may stand between the words of a line. -/
def isSpace (char : Char) : Bool :=
  char == ' ' || char == '\t'

/-- A character other than a control character; the tab is none. -/
def isPrinting (char : Char) : Bool :=
  char == '\t' || (0x20 ≤ char.toNat && char != '\x7f')

namespace Reader

/-- Takes the blanks on a line. -/
def spaces : Reader Unit :=
  discard (takeWhile isSpace)

/-- Takes the end of a line: a line feed, perhaps after a carriage return. -/
def newline : Reader Unit :=
  either (expect "\n") (do expect "\r"; expect "\n")

/-- Takes a comment. -/
def comment : Reader Unit := do
  expect "#"
  discard (takeWhile isPrinting)

/-- Stands at the end of the document. -/
def endOfDocument : Reader Unit := do
  if (← peek?).isSome then mismatch

/-- Takes the end of a line or stands at that of the document. -/
def lineEnd : Reader Unit :=
  either newline endOfDocument

/-- Takes what may follow on a line: blanks, a comment, and the end of the line. -/
def lineRest : Reader Unit :=
  wantingMarks ["#"] (wanting "newline" do
    spaces
    discard (attempt comment)
    lineEnd)

/-- Takes blanks, comments and ends of lines, at most as many lines as there are characters in a
list. -/
def gapWithin : (limit : List Char) → Reader Unit
  | [] => pure ()
  | _ :: limit => do
    spaces
    match ← peek? with
    | some '#' =>
      comment
      newline
      gapWithin limit
    | some '\n' | some '\r' =>
      newline
      gapWithin limit
    | _ => pure ()

/-- Takes blanks, comments and ends of lines. -/
def gap : Reader Unit := do
  gapWithin (← remaining)

end Reader

end TapeAdmin.Toml
