/-!
# Searching and splitting

Finding a word inside a text, cutting a text at a word, and taking a text apart into lines. All of
it works on lists of characters; the names on `String` wrap these.
-/

namespace TapeAdmin.Text

/-- What follows `word` in `chars`, if `chars` starts with it. -/
def afterWord? : (word chars : List Char) → Option (List Char)
  | [], chars => some chars
  | _ :: _, [] => none
  | expected :: word, char :: chars => if expected = char then afterWord? word chars else none

@[simp]
theorem afterWord?_append (word rest : List Char) : afterWord? word (word ++ rest) = some rest := by
  induction word with
  | nil => rfl
  | cons char word ih => simpa [afterWord?] using ih

theorem eq_append_of_afterWord? {word chars rest : List Char}
    (found : afterWord? word chars = some rest) : chars = word ++ rest := by
  induction word generalizing chars with
  | nil => simpa [afterWord?] using found
  | cons expected word ih =>
    cases chars with
    | nil => simp [afterWord?] at found
    | cons char chars =>
      by_cases same : expected = char
      · subst same
        simpa using ih (by simpa [afterWord?] using found)
      · simp [afterWord?, same] at found

/-- Cuts a list of characters at the first occurrence of `word`. -/
def splitFirst? (word : List Char) : List Char → Option (List Char × List Char)
  | [] => (afterWord? word []).map fun rest => ([], rest)
  | char :: chars =>
    match afterWord? word (char :: chars) with
    | some rest => some ([], rest)
    | none => (splitFirst? word chars).map fun (before, rest) => (char :: before, rest)

/-- Cuts a list of characters at the last occurrence of `word`. -/
def splitLast? (word : List Char) : List Char → Option (List Char × List Char)
  | [] => (afterWord? word []).map fun rest => ([], rest)
  | char :: chars =>
    match splitLast? word chars with
    | some (before, rest) => some (char :: before, rest)
    | none => (afterWord? word (char :: chars)).map fun rest => ([], rest)

/-- Whether `word` occurs in a list of characters. -/
def containsWord (word chars : List Char) : Bool :=
  (splitFirst? word chars).isSome

/-- Whether `word` occurs in a text. -/
def contains (text word : String) : Bool :=
  containsWord word.toList text.toList

/-- A line of text without the carriage return that precedes its line feed. -/
def withoutReturn (line : List Char) : List Char :=
  match line.getLast? with
  | some '\r' => line.dropLast
  | _ => line

/--
The lines of a list of characters. A line ends at a line feed, and a carriage return right before it
belongs to the end of the line. What follows the last line feed is a line only if it is not empty,
and it keeps a carriage return at its end. `current` is the reversed start of the line being read.
-/
def linesFrom (current : List Char) : List Char → List (List Char)
  | [] => if current.isEmpty then [] else [current.reverse]
  | char :: chars =>
    if char = '\n' then withoutReturn current.reverse :: linesFrom [] chars
    else linesFrom (char :: current) chars

/-- The lines of a text; see `linesFrom`. -/
def lines (text : String) : List String :=
  (linesFrom [] text.toList).map String.ofList

/-- Fills a text with spaces on the right to at least `width` characters. -/
def padRight (width : Nat) (text : String) : String :=
  text ++ String.ofList (List.replicate (width - text.length) ' ')

end TapeAdmin.Text
