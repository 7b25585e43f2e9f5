import Mathlib.Data.List.Basic
import TapeAdmin.Mount.Listing
import TapeAdmin.Proofs.Text.Joining
import TapeAdmin.Proofs.Text.Search
import TapeAdmin.Proofs.Text.Trimming

/-!
# Listings that are read back

A listing names the mounts from which it was made, whatever their mount points hold, and whatever
other lines stand between theirs. The words that separate the fields may occur in a mount point: a
source ends at the first ` on `, and behind the last ` type ` only the type and the options are
left.
-/

namespace TapeAdmin

open Text (isBlank)

namespace ListedMount

/-- The fields of a mount can be told from its line. Nothing but line feeds is excluded from a mount
point. -/
structure IsPlain (mount : ListedMount) : Prop where
  source_line : '\n' ∉ mount.source.toList
  source_start : ∀ char ∈ mount.source.toList.head?, isBlank char = false
  source_end : ∀ char ∈ mount.source.toList.getLast?, isBlank char = false
  source_apart : ¬" on ".toList <:+: mount.source.toList
  source_closed : ¬" on".toList <:+ mount.source.toList
  mountPoint_line : '\n' ∉ mount.mountPoint.text.toList
  type_solid : ∀ char ∈ mount.fileSystem.toList, isBlank char = false
  type_apart : mount.fileSystem ≠ "type"
  some_option : mount.options ≠ []
  options_solid : ∀ option ∈ mount.options, ∀ char ∈ option.toList, isBlank char = false
  options_apart : ∀ option ∈ mount.options, ',' ∉ option.toList
  options_start : ∀ option ∈ mount.options.head?, option.toList.head? ≠ some '('
  options_end : ∀ option ∈ mount.options.getLast?, option.toList.getLast? ≠ some ')'

/-- The options of a mount, as they are joined in its line. -/
def joinedOptions (mount : ListedMount) : List Char :=
  (String.intercalate (String.singleton ',') mount.options).toList

theorem toList_line (mount : ListedMount) :
    mount.line.toList = mount.source.toList ++ (" on ".toList ++ (mount.mountPoint.text.toList ++
      (" type ".toList ++ (mount.fileSystem.toList ++
        ' ' :: '(' :: (mount.joinedOptions ++ [')']))))) := by
  have comma : "," = String.singleton ',' := rfl
  simp only [line, joinedOptions, comma, String.toList_append, List.append_assoc]
  rfl

variable {mount : ListedMount}

/-! ### The source -/

/-- The word behind a source does not occur earlier, not even overlapping its end. -/
theorem IsPlain.source_first (plain : mount.IsPlain) :
    ¬" on ".toList <:+: mount.source.toList ++ " on ".toList.dropLast := by
  have closing {front : List Char} {char : Char} (ends : " on ".toList <:+ front ++ [char]) :
      " on".toList <:+ front ∧ [' '] = [char] := by
    have one_each : [' '].length = [char].length := rfl
    exact (List.suffix_append_inj_of_length_eq one_each).mp ends
  intro occurs
  change _ <:+: mount.source.toList ++ ([' '] ++ (['o'] ++ ['n'])) at occurs
  rw [← List.append_assoc, ← List.append_assoc, List.infix_concat_iff, List.infix_concat_iff,
    List.infix_concat_iff] at occurs
  rcases occurs with ends | ends | ends | inside
  · exact absurd (closing ends).2 (by decide)
  · exact absurd (closing ends).2 (by decide)
  · exact plain.source_closed (closing ends).1
  · exact plain.source_apart inside

/-! ### The type -/

/-- The type and the options are the last two of three texts without blanks, of which the first is
the word `type`. If that stood between blanks once more, it would be the second. -/
theorem not_infix_behind_type {type options : List Char} (type_solid : ' ' ∉ type)
    (options_solid : ' ' ∉ options) (type_apart : type ≠ "type".toList) :
    ¬" type ".toList <:+: " type ".toList.tail ++ (type ++ ' ' :: options) := by
  rintro ⟨before, after, occurs⟩
  have pieces : before.splitOn ' ' ++ ("type".toList :: after.splitOn ' ') =
      ["type".toList, type, options] := by
    have same := congrArg (List.splitOn ' ') occurs
    rw [List.append_assoc] at same
    change (before ++ ' ' :: ("type".toList ++ ' ' :: after)).splitOn ' ' =
      ("type".toList ++ ' ' :: (type ++ ' ' :: options)).splitOn ' ' at same
    have word_solid : ' ' ∉ "type".toList := by decide
    simpa only [List.splitOn_append_cons_self, List.splitOn_eq_singleton word_solid,
      List.splitOn_eq_singleton type_solid, List.splitOn_eq_singleton options_solid,
      List.singleton_append] using same
  rcases List.exists_cons_of_ne_nil (List.splitOn_ne_nil ' ' before) with ⟨first, firsts, split⟩
  rcases List.exists_cons_of_ne_nil (List.splitOn_ne_nil ' ' after) with ⟨last, lasts, split'⟩
  rw [split, split'] at pieces
  cases firsts with
  | nil =>
      rw [List.cons_append, List.nil_append] at pieces
      injection pieces with _ pieces
      injection pieces with same _
      exact type_apart same.symm
  | cons second firsts =>
      have lengths := congrArg List.length pieces
      simp at lengths
      omega

/-! ### The options -/

theorem parseOptions_line (plain : mount.IsPlain) :
    parseOptions ('(' :: (mount.joinedOptions ++ [')'])) = mount.options := by
  have untrimmed : Text.trim (String.ofList ('(' :: (mount.joinedOptions ++ [')']))) =
      String.ofList ('(' :: (mount.joinedOptions ++ [')'])) := by
    have opening : isBlank '(' = false := by decide
    have closing : isBlank ')' = false := by decide
    apply Text.trim_of_ends
    · simp [opening]
    · simp [List.getLast?_cons, closing]
  -- Only the outer parenthesis is removed at either end, as the options do not add to it.
  have opened : (mount.joinedOptions ++ [')']).dropWhile (· == '(') =
      mount.joinedOptions ++ [')'] := by
    apply Text.dropWhile_of_head?
    intro char starts
    rw [beq_eq_false_iff_ne]
    rintro rfl
    rw [List.head?_append, Option.or_eq_some_iff] at starts
    rcases starts with starts | ⟨_, starts⟩
    · rcases Text.head?_intercalate starts with comma | ⟨option, first, starts⟩
      · exact absurd comma (by decide)
      · exact plain.options_start option first starts
    · exact absurd starts (by decide)
  have closed : Text.dropEndWhile (· == ')') (mount.joinedOptions ++ [')']) =
      mount.joinedOptions := by
    rw [Text.dropEndWhile_append_of_all (by simp)]
    apply Text.dropEndWhile_of_getLast?
    intro char ends
    rw [beq_eq_false_iff_ne]
    rintro rfl
    rcases Text.getLast?_intercalate ends with comma | ⟨option, last, ends⟩
    · exact absurd comma (by decide)
    · exact plain.options_end option last ends
  have apart := Text.splitAt_intercalate plain.some_option plain.options_apart
  rw [parseOptions, untrimmed, String.toList_ofList, List.dropWhile_cons_of_pos (by rfl), opened,
    closed]
  exact apart

/-! ### Lines -/

theorem IsPlain.not_mem_of_isBlank (plain : mount.IsPlain) {char : Char}
    (blank : isBlank char = true) :
    char ∉ mount.fileSystem.toList ∧ char ∉ '(' :: (mount.joinedOptions ++ [')']) := by
  have marks_solid : [',', '(', ')'].any isBlank = false := by decide
  have not_mark {mark : Char} (mark_mem : mark ∈ [',', '(', ')']) : char ≠ mark := by
    rintro rfl
    exact List.any_eq_false.mp marks_solid char mark_mem blank
  constructor
  · intro char_mem
    exact absurd blank (by simp [plain.type_solid char char_mem])
  · rw [List.mem_cons, List.mem_append, List.mem_singleton]
    rintro (same | char_mem | same)
    · exact not_mark (by simp) same
    · rcases Text.mem_intercalate char_mem with same | ⟨option, option_mem, char_mem⟩
      · exact not_mark (by simp) same
      · exact absurd blank (by simp [plain.options_solid option option_mem char char_mem])
    · exact not_mark (by simp) same

theorem parseLine?_line (plain : mount.IsPlain) : parseLine? mount.line.toList = some mount := by
  rcases plain.not_mem_of_isBlank (show isBlank ' ' = true by decide) with
    ⟨type_solid, options_solid⟩
  have type_apart : mount.fileSystem.toList ≠ "type".toList := fun same =>
    plain.type_apart (String.toList_inj.mp same)
  have type_ends : ∀ char ∈ mount.fileSystem.toList, (char != ' ') = true := by
    intro char char_mem
    rw [bne_iff_ne]
    rintro rfl
    exact type_solid char_mem
  have type_cut := Text.splitLast?_append (by decide)
    (not_infix_behind_type type_solid options_solid type_apart) mount.mountPoint.text.toList
  rw [parseLine?, toList_line, Text.splitFirst?_append plain.source_first]
  simp only [Option.bind_eq_bind, Option.bind_some, type_cut, Option.pure_def,
    List.takeWhile_append_of_pos type_ends, List.dropWhile_append_of_pos type_ends]
  simp [parseOptions_line plain, Text.trim_of_ends plain.source_start plain.source_end]

/-- What is read from one line of a listing. -/
def ofLine? (line : String) : Option ListedMount :=
  if Text.contains line "ltfs" then parseLine? line.toList else none

theorem parse_eq (listing : String) : parse listing = (Text.lines listing).filterMap ofLine? := by
  rw [parse, List.filterMap_filter]
  rfl

theorem ofLine?_of_not_mentioned {line : String} (other : ¬"ltfs".toList <:+: line.toList) :
    ofLine? line = none :=
  if_neg (mt Text.containsWord_iff.mp other)

theorem ofLine?_line (plain : mount.IsPlain) (mentioned : "ltfs".toList <:+: mount.line.toList) :
    ofLine? mount.line = some mount := by
  rw [← parseLine?_line plain]
  exact if_pos (Text.containsWord_iff.mpr mentioned)

end ListedMount

/-! ### Listings -/

/-- A line of a listing. -/
inductive ListingLine where
  /-- A line that is not about a volume. -/
  | other (text : String)
  | listed (mount : ListedMount)

namespace ListingLine

/-- A line as the host prints it. -/
def text : ListingLine → String
  | other text => text
  | listed mount => mount.line

/-- The mount that a line is about. -/
def mount? : ListingLine → Option ListedMount
  | other _ => none
  | listed mount => some mount

/-- A line is about a volume exactly if it mentions `ltfs`, and then its fields can be told. -/
def IsPlain : ListingLine → Prop
  | other text => '\n' ∉ text.toList ∧ ¬"ltfs".toList <:+: text.toList
  | listed mount => mount.IsPlain ∧ "ltfs".toList <:+: mount.line.toList

variable {line : ListingLine}

theorem newline_not_mem_text (plain : line.IsPlain) : '\n' ∉ line.text.toList := by
  cases line with
  | other text => exact plain.1
  | listed mount =>
      rcases plain with ⟨plain, _⟩
      rcases plain.not_mem_of_isBlank (show isBlank '\n' = true by decide) with ⟨type, options⟩
      have on : '\n' ∉ " on ".toList := by decide
      have type_word : '\n' ∉ " type ".toList := by decide
      rw [text, mount.toList_line]
      simp only [List.mem_append, not_or]
      refine ⟨plain.source_line, on, plain.mountPoint_line, type_word, type, ?_⟩
      rw [List.mem_cons, not_or]
      exact ⟨by decide, options⟩

theorem ofLine?_text (plain : line.IsPlain) : ListedMount.ofLine? line.text = line.mount? := by
  cases line with
  | other text => exact ListedMount.ofLine?_of_not_mentioned plain.2
  | listed mount => exact ListedMount.ofLine?_line plain.1 plain.2

theorem ofLine?_withoutReturn (plain : line.IsPlain) :
    ListedMount.ofLine? (String.ofList (Text.withoutReturn line.text.toList)) =
      ListedMount.ofLine? line.text := by
  cases line with
  | other text =>
      have shorter : ¬"ltfs".toList <:+: Text.withoutReturn text.toList := fun occurs =>
        plain.2 (occurs.trans (Text.withoutReturn_prefix text.toList).isInfix)
      rw [← String.toList_ofList (l := Text.withoutReturn text.toList)] at shorter
      exact (ListedMount.ofLine?_of_not_mentioned shorter).trans
        (ListedMount.ofLine?_of_not_mentioned plain.2).symm
  | listed mount =>
      have closed : mount.line.toList.getLast? = some ')' := by
        rw [ListedMount.toList_line]
        simp [List.getLast?_cons]
      have whole : Text.withoutReturn mount.line.toList = mount.line.toList :=
        Text.withoutReturn_of_getLast? (by simp [closed])
      rw [text, whole, String.ofList_toList]

end ListingLine

/--
A listing is read back into the mounts of its lines, in order, whether or not a line feed ends the
last line.
-/
theorem ListedMount.parse_lines {lines : List ListingLine} (plain : ∀ line ∈ lines, line.IsPlain)
    {ending : String} (ends : ending = "" ∨ ending = "\n") :
    parse (String.intercalate "\n" (lines.map ListingLine.text) ++ ending) =
      lines.filterMap ListingLine.mount? := by
  have bare : ∀ text ∈ lines.map ListingLine.text, '\n' ∉ text.toList := by
    intro text text_mem
    rcases List.mem_map.mp text_mem with ⟨line, line_mem, rfl⟩
    exact line.newline_not_mem_text (plain line line_mem)
  have returns : ∀ text ∈ lines.map ListingLine.text,
      ofLine? (String.ofList (Text.withoutReturn text.toList)) = ofLine? text := by
    intro text text_mem
    rcases List.mem_map.mp text_mem with ⟨line, line_mem, rfl⟩
    exact line.ofLine?_withoutReturn (plain line line_mem)
  have nothing : ofLine? "" = none := by decide
  rw [parse_eq, Text.filterMap_lines_intercalate bare nothing returns ends, List.filterMap_map]
  exact List.filterMap_congr fun line line_mem => line.ofLine?_text (plain line line_mem)

/-- A listing with a mount point that holds the words between the fields, an empty option and one
with parentheses, behind a line with a carriage return that is about no volume. -/
theorem ListedMount.parse_lines_words :
    let tape : ListedMount :=
      ⟨"ltfs:/dev/nst0", ⟨"/mnt/a on b type c (d)"⟩, "fuse", ["", "b(c)d"]⟩
    tape.IsPlain ∧
      tape.line = "ltfs:/dev/nst0 on /mnt/a on b type c (d) type fuse (,b(c)d)" ∧
      parse ("none on /proc type proc (rw)\r\n" ++ tape.line ++ "\n") = [tape] := by
  intro tape
  have plain : tape.IsPlain := by
    constructor
    case source_start | source_end | type_solid | options_solid => simp [tape]; decide
    all_goals decide +kernel
  have lines_plain : ∀ line ∈ [.other "none on /proc type proc (rw)\r", .listed tape],
      ListingLine.IsPlain line := by
    intro line line_mem
    simp only [List.mem_cons, List.not_mem_nil, or_false] at line_mem
    rcases line_mem with rfl | rfl
    · exact ⟨by decide +kernel, by decide +kernel⟩
    · exact ⟨plain, by decide +kernel⟩
  exact ⟨plain, rfl, parse_lines lines_plain (.inr rfl)⟩

end TapeAdmin
