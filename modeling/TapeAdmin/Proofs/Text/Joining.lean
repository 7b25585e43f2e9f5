import Mathlib.Algebra.BigOperators.Group.List.Basic
import Mathlib.Algebra.Ring.Nat
import TapeAdmin.Text.Search

/-!
# Joined texts

Texts that are joined with a mark between them come back when the whole is split at the mark, as
long as none of them holds it. Texts that are joined with line feeds come back as lines, but for an
empty one at the end and the carriage returns at their ends.
-/

namespace TapeAdmin.Text

/-- The texts between the marks in a text. -/
def splitAt (mark : Char) (text : String) : List String :=
  (text.toList.splitOn mark).map String.ofList

theorem splitAt_intercalate {mark : Char} {texts : List String} (some_text : texts ≠ [])
    (bare : ∀ text ∈ texts, mark ∉ text.toList) :
    splitAt mark (String.intercalate (String.singleton mark) texts) = texts := by
  have bare_chars : ∀ chars ∈ texts.map String.toList, mark ∉ chars := by
    intro chars chars_mem
    rcases List.mem_map.mp chars_mem with ⟨text, text_mem, rfl⟩
    exact bare text text_mem
  have some_chars : texts.map String.toList ≠ [] := by simpa using some_text
  rw [splitAt, String.toList_intercalate, String.toList_singleton,
    List.splitOn_intercalate mark bare_chars some_chars, List.map_map]
  simp [Function.comp_def]

/-- Every text behind the first one adds its length and that of the comma in front of it. -/
theorem length_intercalate_comma (first : String) (others : List String) :
    (String.intercalate "," (first :: others)).length =
      first.length + (others.map fun text => text.length + 1).sum := by
  induction others generalizing first with
  | nil => simp
  | cons next others ih =>
      have comma : ",".length = 1 := rfl
      rw [String.intercalate_cons_cons, String.length_append, String.length_append, ih,
        List.map_cons, List.sum_cons, comma]
      omega

/-! ### The characters of joined texts -/

section Characters

variable {mark char : Char} {texts : List String}

theorem mem_intercalate
    (char_mem : char ∈ (String.intercalate (String.singleton mark) texts).toList) :
    char = mark ∨ ∃ text ∈ texts, char ∈ text.toList := by
  induction texts with
  | nil => cases char_mem
  | cons text texts ih =>
      cases texts with
      | nil =>
          rw [String.intercalate_singleton] at char_mem
          exact .inr ⟨text, List.mem_cons_self, char_mem⟩
      | cons next texts =>
          rw [String.intercalate_cons_cons, String.toList_append, String.toList_append,
            List.mem_append, List.mem_append, String.toList_singleton, List.mem_singleton]
            at char_mem
          rcases char_mem with (char_mem | rfl) | char_mem
          · exact .inr ⟨text, List.mem_cons_self, char_mem⟩
          · exact .inl rfl
          · rcases ih char_mem with same | ⟨other, other_mem, char_mem⟩
            · exact .inl same
            · exact .inr ⟨other, List.mem_cons_of_mem _ other_mem, char_mem⟩

/-- Joined texts start with the mark only where the first of them is empty. -/
theorem head?_intercalate
    (starts : (String.intercalate (String.singleton mark) texts).toList.head? = some char) :
    char = mark ∨ ∃ text, texts.head? = some text ∧ text.toList.head? = some char := by
  cases texts with
  | nil => cases starts
  | cons text texts =>
      cases texts with
      | nil =>
          rw [String.intercalate_singleton] at starts
          exact .inr ⟨text, rfl, starts⟩
      | cons next texts =>
          rw [String.intercalate_cons_cons, String.toList_append, String.toList_append,
            List.append_assoc, List.head?_append, Option.or_eq_some_iff] at starts
          rcases starts with starts | ⟨_, starts⟩
          · exact .inr ⟨text, rfl, starts⟩
          · rw [String.toList_singleton] at starts
            exact .inl (Option.some.inj starts).symm

/-- Joined texts end with the mark only where the last of them is empty. -/
theorem getLast?_intercalate
    (ends : (String.intercalate (String.singleton mark) texts).toList.getLast? = some char) :
    char = mark ∨ ∃ text, texts.getLast? = some text ∧ text.toList.getLast? = some char := by
  induction texts with
  | nil => cases ends
  | cons text texts ih =>
      cases texts with
      | nil =>
          rw [String.intercalate_singleton] at ends
          exact .inr ⟨text, rfl, ends⟩
      | cons next texts =>
          rw [String.intercalate_cons_cons, String.toList_append, String.toList_append,
            List.getLast?_append, Option.or_eq_some_iff] at ends
          rcases ends with ends | ⟨_, ends⟩
          · rcases ih ends with same | ⟨last, last_eq, ends⟩
            · exact .inl same
            · exact .inr ⟨last, by rw [List.getLast?_cons_cons, last_eq], ends⟩
          · rw [String.toList_singleton, List.getLast?_concat] at ends
            exact .inl (Option.some.inj ends).symm

end Characters

/-! ### Lines -/

theorem linesFrom_of_bare {chars : List Char} (bare : '\n' ∉ chars) (current : List Char) :
    linesFrom current chars =
      if current.reverse ++ chars = [] then [] else [current.reverse ++ chars] := by
  induction chars generalizing current with
  | nil => simp [linesFrom]
  | cons char chars ih =>
      rw [List.mem_cons, not_or] at bare
      rw [linesFrom, if_neg (Ne.symm bare.1), ih bare.2]
      simp

theorem linesFrom_append_newline {chars rest : List Char} (bare : '\n' ∉ chars)
    (current : List Char) :
    linesFrom current (chars ++ '\n' :: rest) =
      withoutReturn (current.reverse ++ chars) :: linesFrom [] rest := by
  induction chars generalizing current with
  | nil => simp [linesFrom]
  | cons char chars ih =>
      rw [List.mem_cons, not_or] at bare
      rw [List.cons_append, linesFrom, if_neg (Ne.symm bare.1), ih bare.2]
      simp

theorem withoutReturn_prefix (line : List Char) : withoutReturn line <+: line := by
  rw [withoutReturn]
  split
  · exact List.dropLast_prefix line
  · exact List.prefix_rfl

theorem withoutReturn_of_getLast? {line : List Char} (ends : line.getLast? ≠ some '\r') :
    withoutReturn line = line := by
  rw [withoutReturn]
  split
  · next last => exact absurd last ends
  · rfl

variable {text : String}

theorem lines_of_bare (bare : '\n' ∉ text.toList) :
    lines text = if text = "" then [] else [text] := by
  rw [lines, linesFrom_of_bare bare]
  by_cases empty : text = "" <;> simp [empty]

theorem lines_append_newline (bare : '\n' ∉ text.toList) (rest : String) :
    lines (text ++ "\n" ++ rest) = String.ofList (withoutReturn text.toList) :: lines rest := by
  rw [lines, String.toList_append, String.toList_append, List.append_assoc,
    show "\n".toList = ['\n'] from rfl, List.singleton_append, linesFrom_append_newline bare]
  rfl

/-- What is read from joined lines one by one is what is read from the lines, if an empty line
yields nothing and a carriage return at the end of a line does not matter. -/
theorem filterMap_lines_intercalate {α : Type} {read : String → Option α} {texts : List String}
    (bare : ∀ text ∈ texts, '\n' ∉ text.toList) (empty : read "" = none)
    (returns : ∀ text ∈ texts, read (String.ofList (withoutReturn text.toList)) = read text)
    {ending : String} (ends : ending = "" ∨ ending = "\n") :
    (lines (String.intercalate "\n" texts ++ ending)).filterMap read = texts.filterMap read := by
  induction texts with
  | nil =>
      rcases ends with rfl | rfl
      · rfl
      · simpa [lines, linesFrom, withoutReturn] using empty
  | cons text texts ih =>
      have text_bare := bare text List.mem_cons_self
      have text_returns := returns text List.mem_cons_self
      have later := ih (fun other other_mem => bare other (List.mem_cons_of_mem _ other_mem))
        fun other other_mem => returns other (List.mem_cons_of_mem _ other_mem)
      cases texts with
      | nil =>
          rw [String.intercalate_singleton]
          rcases ends with rfl | rfl
          · rw [String.append_empty, lines_of_bare text_bare]
            by_cases blank : text = "" <;> simp [blank, empty]
          · have alone := lines_append_newline text_bare ""
            rw [String.append_empty] at alone
            rw [alone, List.filterMap_cons, List.filterMap_cons, text_returns]
            rfl
      | cons next texts =>
          rw [String.intercalate_cons_cons, String.append_assoc, lines_append_newline text_bare,
            List.filterMap_cons, List.filterMap_cons, text_returns, later]

end TapeAdmin.Text
