import Mathlib.Data.List.TakeWhile
import TapeAdmin.Text.Blank

/-!
# Trimmed texts

What is dropped at the ends of a text, and texts of which nothing is dropped.
-/

namespace TapeAdmin.Text

variable {drop : Char → Bool} {chars kept : List Char}

/-- What is dropped behind a text does not count. -/
theorem dropEndWhile_append_of_all {padding : List Char}
    (dropped : ∀ char ∈ padding, drop char = true) (chars : List Char) :
    dropEndWhile drop (chars ++ padding) = dropEndWhile drop chars := by
  have dropped_reverse : ∀ char ∈ padding.reverse, drop char = true := by
    intro char char_mem
    exact dropped char (List.mem_reverse.mp char_mem)
  rw [dropEndWhile, List.reverse_append, List.dropWhile_append_of_pos dropped_reverse]
  rfl

theorem dropWhile_of_head? (kept : ∀ char, chars.head? = some char → drop char = false) :
    chars.dropWhile drop = chars := by
  cases chars with
  | nil => rfl
  | cons char chars => rw [List.dropWhile_cons_of_neg (by simp [kept char rfl])]

theorem dropEndWhile_of_getLast? (kept : ∀ char, chars.getLast? = some char → drop char = false) :
    dropEndWhile drop chars = chars := by
  rw [dropEndWhile, dropWhile_of_head?, List.reverse_reverse]
  intro char last
  exact kept char (by rwa [List.head?_reverse] at last)

/-- A text that neither starts nor ends with a blank is left as it is. -/
theorem trim_of_ends {text : String}
    (starts : ∀ char, text.toList.head? = some char → isBlank char = false)
    (ends : ∀ char, text.toList.getLast? = some char → isBlank char = false) :
    trim text = text := by
  rw [trim, trimStart, dropWhile_of_head? starts, String.ofList_toList, trimEnd,
    dropEndWhile_of_getLast? ends, String.ofList_toList]

/-! ### What trimming keeps -/

theorem head?_dropWhile {char : Char} (head : (chars.dropWhile drop).head? = some char) :
    drop char = false := by
  have first := List.head?_dropWhile_not drop chars
  rwa [head] at first

/-- What is dropped in front of a text, and what is dropped behind it. -/
theorem exists_append_dropWhile (drop : Char → Bool) (chars : List Char) :
    ∃ dropped, chars = dropped ++ chars.dropWhile drop ∧ ∀ char ∈ dropped, drop char = true :=
  ⟨chars.takeWhile drop, List.takeWhile_append_dropWhile.symm,
    List.all_eq_true.mp List.all_takeWhile⟩

theorem exists_dropEndWhile_append (drop : Char → Bool) (chars : List Char) :
    ∃ dropped, chars = dropEndWhile drop chars ++ dropped ∧ ∀ char ∈ dropped, drop char = true := by
  rcases exists_append_dropWhile drop chars.reverse with ⟨dropped, parts, all_dropped⟩
  refine ⟨dropped.reverse, ?_, fun char char_mem => all_dropped char (List.mem_reverse.mp char_mem)⟩
  rw [dropEndWhile, ← List.reverse_append, ← parts, List.reverse_reverse]

/-- Characters between blanks that neither start nor end with a blank. -/
structure TrimsTo (chars kept : List Char) : Prop where
  parts : ∃ before after, chars = before ++ (kept ++ after) ∧
    (∀ char ∈ before, isBlank char = true) ∧ ∀ char ∈ after, isBlank char = true
  starts : ∀ char, kept.head? = some char → isBlank char = false
  ends : ∀ char, kept.getLast? = some char → isBlank char = false

theorem trimsTo_trim (text : String) : TrimsTo text.toList (trim text).toList := by
  have trimmed : (trim text).toList = dropEndWhile isBlank (text.toList.dropWhile isBlank) := by
    rw [trim, trimEnd, trimStart, String.toList_ofList, String.toList_ofList]
  rcases exists_append_dropWhile isBlank text.toList with ⟨before, parts, all_before⟩
  rcases exists_dropEndWhile_append isBlank (text.toList.dropWhile isBlank) with
    ⟨after, kept_parts, all_after⟩
  rw [trimmed]
  constructor
  · exact ⟨before, after, by rw [← kept_parts, ← parts], all_before, all_after⟩
  · intro char head
    have first : (text.toList.dropWhile isBlank).head? = some char := by
      rw [kept_parts, List.head?_append, head, Option.some_or]
    exact head?_dropWhile first
  · intro char last
    rw [dropEndWhile, List.getLast?_reverse] at last
    exact head?_dropWhile last

/-- What is left of a text without the blanks around it is what trimming keeps. -/
theorem trimsTo_iff {text : String} : TrimsTo text.toList kept ↔ (trim text).toList = kept := by
  constructor
  · rintro ⟨⟨before, after, parts, all_before, all_after⟩, starts, ends⟩
    rw [trim, trimEnd, trimStart, String.toList_ofList, String.toList_ofList, parts,
      List.dropWhile_append_of_pos all_before]
    by_cases nothing : kept = []
    · subst nothing
      have all_dropped : after.dropWhile isBlank = [] := List.dropWhile_eq_nil_iff.mpr all_after
      rw [List.nil_append, all_dropped]
      rfl
    · have kept_first : ∀ char, (kept ++ after).head? = some char → isBlank char = false := by
        intro char head
        rcases List.exists_cons_of_ne_nil nothing with ⟨first, rest, rfl⟩
        exact starts char head
      rw [dropWhile_of_head? kept_first, dropEndWhile_append_of_all all_after,
        dropEndWhile_of_getLast? ends]
  · rintro rfl
    exact trimsTo_trim text

end TapeAdmin.Text
