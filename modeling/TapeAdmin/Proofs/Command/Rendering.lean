import TapeAdmin.Command.Line
import TapeAdmin.Command.Words

/-!
# Command lines as shell text

A shell that reads the text of a command line finds the words of the command line in it, whatever
characters they hold, and meets no character that means more to it than a space between two words or
an escaped quote. So the text of a command line tells its program and its arguments.
-/

namespace TapeAdmin

namespace ShellWords

open CommandLine (isPlain isPlainChar quote quotedBody)

/-- A character of a line outside single quotes. The quotes themselves are left out. -/
inductive Unquoted where
  | bare (char : Char)
  /-- The character behind a backslash. -/
  | escaped (char : Char)

/-- What the next character of a line follows. -/
inductive Position where
  | outside
  | inside
  | backslash

/-- The characters of a line outside single quotes, from a position on. -/
def unquoted : Position → List Char → List Unquoted
  | .backslash, [] => [.bare '\\']
  | _, [] => []
  | .backslash, char :: chars => .escaped char :: unquoted .outside chars
  | .inside, char :: chars =>
    if char = '\'' then unquoted .outside chars else unquoted .inside chars
  | .outside, char :: chars =>
    if char = '\'' then unquoted .inside chars
    else if char = '\\' then unquoted .backslash chars
    else .bare char :: unquoted .outside chars

/-- The characters that a shell does not take as they stand: the blanks, the two that quote, and
those that ask for more than plain words. -/
def specialChars : List Char :=
  [' ', '\t', '\\', '\''] ++ metaChars

/-- What lines of plain and quoted words have outside quotes: a space between two words, an escaped
quote, or a character that a shell takes as it stands. -/
def Unquoted.IsHarmless : Unquoted → Prop
  | bare char => char = ' ' ∨ char ∉ specialChars
  | escaped char => char = '\''

variable {char : Char} {chars rest : List Char}

theorem not_mem_specialChars (plain : isPlainChar char = true) : char ∉ specialChars := by
  have none_plain : specialChars.any isPlainChar = false := by decide
  intro special
  exact List.any_eq_false.mp none_plain char special plain

/-! ### Reading words back -/

theorem read_quoted_cons (not_quote : char ≠ '\'') (current : Option (List Char)) :
    read current true (char :: rest) = read (some (char :: current.getD [])) true rest := by
  rw [read.eq_def]
  simp [not_quote]

theorem read_quoted_quote (current : Option (List Char)) :
    read current true ('\'' :: rest) = read (some (current.getD [])) false rest := by
  rw [read.eq_def]
  simp

theorem read_quote (current : Option (List Char)) :
    read current false ('\'' :: rest) = read (some (current.getD [])) true rest := by
  rw [read.eq_def]
  simp

theorem read_backslash (current : Option (List Char)) :
    read current false ('\\' :: char :: rest) =
      read (some (char :: current.getD [])) false rest := by
  rw [read.eq_def]
  simp

theorem read_space (word : List Char) :
    read (some word) false (' ' :: rest) = (read none false rest).map (word.reverse :: ·) := by
  rw [read.eq_def]
  simp

theorem read_plain_cons (plain : isPlainChar char = true) (current : Option (List Char)) :
    read current false (char :: rest) = read (some (char :: current.getD [])) false rest := by
  have ordinary := not_mem_specialChars plain
  simp only [specialChars, List.mem_append, List.mem_cons, List.not_mem_nil, or_false, not_or]
    at ordinary
  rcases ordinary with ⟨⟨not_space, not_tab, not_backslash, not_quote⟩, not_meta⟩
  rw [read.eq_def]
  simp [not_space, not_tab, not_backslash, not_quote, not_meta]

/-- Characters that need no quotes are read up to what follows them. -/
theorem read_plain_append (plain : chars.all isPlainChar = true) (current : List Char) :
    read (some current) false (chars ++ rest) =
      read (some (chars.reverse ++ current)) false rest := by
  induction chars generalizing current with
  | nil => rfl
  | cons char chars ih =>
      rw [List.all_cons, Bool.and_eq_true] at plain
      rw [List.cons_append, read_plain_cons plain.1, Option.getD_some, ih plain.2,
        List.reverse_cons, List.append_assoc]
      rfl

theorem quotedBody_cons (char : Char) (word : List Char) :
    quotedBody (char :: word) =
      (if char = '\'' then ['\'', '\\', '\'', '\''] else [char]) ++ quotedBody word :=
  List.flatMap_cons

/-- A quoted word is read up to the quote that ends it. A quote inside it leaves the quotes, stands
behind a backslash, and enters them again. -/
theorem read_quotedBody_append (word current rest : List Char) :
    read (some current) true (quotedBody word ++ '\'' :: rest) =
      read (some (word.reverse ++ current)) false rest := by
  induction word generalizing current with
  | nil => exact read_quoted_quote (some current)
  | cons char word ih =>
      rw [List.reverse_cons, List.append_assoc, List.singleton_append, ← ih, quotedBody_cons]
      split
      · next quote =>
          subst quote
          simp only [List.cons_append, List.nil_append]
          rw [read_quoted_quote, read_backslash, read_quote]
          rfl
      · next not_quote => exact read_quoted_cons not_quote (some current)

theorem read_quote_append (word : String) (rest : List Char) :
    read none false ((quote word).toList ++ rest) = read (some word.toList.reverse) false rest := by
  rw [quote]
  split
  · next plain =>
      rw [isPlain, Bool.and_eq_true] at plain
      cases chars_eq : word.toList with
      | nil => simp [chars_eq] at plain
      | cons char chars =>
          rw [chars_eq, List.all_cons, Bool.and_eq_true] at plain
          rw [List.cons_append, read_plain_cons plain.2.1, read_plain_append plain.2.2,
            List.reverse_cons]
          rfl
  · have body := read_quotedBody_append word.toList [] rest
    rw [List.append_nil] at body
    rw [← body, String.toList_ofList, List.cons_append, List.cons_append, List.append_assoc]
    exact read_quote none

/-- Quoted words behind each other, with spaces between them, are read one after another. -/
theorem read_join (words : List String) :
    read none false (String.intercalate " " (words.map quote)).toList =
      some (words.map String.toList) := by
  induction words with
  | nil => rfl
  | cons word words ih =>
      cases words with
      | nil =>
          have alone := read_quote_append word []
          rw [List.append_nil] at alone
          simp [alone, read]
      | cons next words =>
          rw [List.map_cons, List.map_cons, String.intercalate_cons_cons, ← List.map_cons,
            String.toList_append, String.toList_append, List.append_assoc, read_quote_append,
            show " ".toList = [' '] from rfl, List.singleton_append, read_space, ih,
            List.reverse_reverse]
          rfl

/-! ### What is outside quotes -/

theorem unquoted_plain_append (plain : chars.all isPlainChar = true) :
    unquoted .outside (chars ++ rest) = chars.map .bare ++ unquoted .outside rest := by
  induction chars with
  | nil => rfl
  | cons char chars ih =>
      rw [List.all_cons, Bool.and_eq_true] at plain
      have ordinary := not_mem_specialChars plain.1
      simp only [specialChars, List.mem_append, List.mem_cons, not_or] at ordinary
      simp [unquoted, ih plain.2, ordinary]

/-- Outside quotes a quoted word has one escaped quote for each quote that it holds. -/
theorem unquoted_quotedBody_append (word : List Char) :
    unquoted .inside (quotedBody word ++ '\'' :: rest) =
      List.replicate (word.count '\'') (.escaped '\'') ++ unquoted .outside rest := by
  induction word with
  | nil => simp [quotedBody, unquoted]
  | cons char word ih =>
      by_cases quote : char = '\''
      · subst quote
        rw [List.count_cons_self, List.replicate_succ, List.cons_append, ← ih]
        simp [quotedBody, unquoted]
      · rw [List.count_cons_of_ne quote, ← ih]
        simp [quotedBody, unquoted, quote]

theorem isHarmless_of_mem_quote_append {part : Unquoted} {word : String}
    (part_mem : part ∈ unquoted .outside ((quote word).toList ++ rest)) :
    part.IsHarmless ∨ part ∈ unquoted .outside rest := by
  rw [quote] at part_mem
  split at part_mem
  · next plain =>
      rw [isPlain, Bool.and_eq_true] at plain
      rw [unquoted_plain_append plain.2, List.mem_append, List.mem_map] at part_mem
      rcases part_mem with ⟨char, char_mem, rfl⟩ | part_mem
      · exact .inl (.inr (not_mem_specialChars (List.all_eq_true.mp plain.2 char char_mem)))
      · exact .inr part_mem
  · rw [String.toList_ofList, List.cons_append, List.cons_append, List.append_assoc] at part_mem
    change part ∈ unquoted .inside (quotedBody word.toList ++ '\'' :: rest) at part_mem
    rw [unquoted_quotedBody_append, List.mem_append] at part_mem
    rcases part_mem with escaped | part_mem
    · exact .inl (List.eq_of_mem_replicate escaped ▸ rfl)
    · exact .inr part_mem

theorem isHarmless_of_mem_join {part : Unquoted} {words : List String}
    (part_mem : part ∈ unquoted .outside (String.intercalate " " (words.map quote)).toList) :
    part.IsHarmless := by
  induction words with
  | nil => cases part_mem
  | cons word words ih =>
      cases words with
      | nil =>
          rw [List.map_cons, List.map_nil, String.intercalate_singleton,
            ← List.append_nil (quote word).toList] at part_mem
          rcases isHarmless_of_mem_quote_append part_mem with harmless | nothing
          · exact harmless
          · cases nothing
      | cons next words =>
          rw [List.map_cons, List.map_cons, String.intercalate_cons_cons, ← List.map_cons,
            String.toList_append, String.toList_append, List.append_assoc] at part_mem
          rcases isHarmless_of_mem_quote_append part_mem with harmless | later
          · exact harmless
          · change part ∈ .bare ' ' :: unquoted .outside _ at later
            rcases List.mem_cons.mp later with rfl | later
            · exact .inl rfl
            · exact ih later

end ShellWords

namespace CommandLine

open ShellWords (split? unquoted)

theorem words_of_render (command : CommandLine) : split? command.render = some command.words := by
  rw [split?, render, ShellWords.read_join]
  simp

/-- The text of a command line is shell text for its words: a shell that splits it finds the program
and then the arguments, and what stands outside quotes means no more to it than a space between two
words or an escaped quote. Two command lines with one text have the same program and the same
arguments. -/
theorem split?_render (command : CommandLine) :
    split? command.render = some (command.program :: command.arguments) ∧
    (∀ part ∈ unquoted .outside command.render.toList, part.IsHarmless) ∧
    ∀ other : CommandLine, command.render = other.render ↔
      command.program = other.program ∧ command.arguments = other.arguments := by
  refine ⟨command.words_of_render, ?_, ?_⟩
  · intro part part_mem
    exact ShellWords.isHarmless_of_mem_join part_mem
  · intro other
    constructor
    · intro same_text
      have same_words := command.words_of_render
      rw [same_text, other.words_of_render] at same_words
      simpa [words, eq_comm] using same_words
    · rintro ⟨same_program, same_arguments⟩
      rw [render, render, words, words, same_program, same_arguments]

/-- A label with a quote, a blank and a dollar sign, and an empty word. -/
theorem split?_render_label :
    let command : CommandLine := ⟨"mkltfs", ["-n", "it's $5 ", ""], none⟩
    command.render = "mkltfs -n 'it'\\''s $5 ' ''" ∧
      split? command.render = some ["mkltfs", "-n", "it's $5 ", ""] ∧
      ShellWords.Unquoted.IsHarmless (.escaped '\'') := by
  intro command
  rcases split?_render command with ⟨words, harmless, _⟩
  have text : command.render = "mkltfs -n 'it'\\''s $5 ' ''" := by decide +kernel
  refine ⟨text, words, harmless _ ?_⟩
  rw [text]
  simp [unquoted]

end CommandLine

end TapeAdmin
