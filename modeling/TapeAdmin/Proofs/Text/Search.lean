import TapeAdmin.Text.LetterCase
import TapeAdmin.Text.Search

/-!
# Words in texts

A word is found in a text exactly if the text holds its characters one after another, and a text is
cut at the first or the last place where it holds a word. Letter case does not matter where both are
lowered.
-/

namespace TapeAdmin.Text

theorem isSome_afterWord?_iff {word chars : List Char} :
    (afterWord? word chars).isSome = true ↔ word <+: chars := by
  constructor
  · intro found
    rcases Option.isSome_iff_exists.mp found with ⟨rest, rest_eq⟩
    exact ⟨rest, (eq_append_of_afterWord? rest_eq).symm⟩
  · rintro ⟨rest, rfl⟩
    rw [afterWord?_append]
    rfl

theorem containsWord_iff {word chars : List Char} :
    containsWord word chars = true ↔ word <:+: chars := by
  induction chars with
  | nil =>
      rw [containsWord, splitFirst?, Option.isSome_map, isSome_afterWord?_iff, List.prefix_nil,
        List.infix_nil]
  | cons char chars ih =>
      rw [List.infix_cons_iff, ← ih, ← isSome_afterWord?_iff, containsWord, splitFirst?]
      cases afterWord? word (char :: chars) with
      | some rest => simp
      | none => simp [containsWord]

/-! ### Cutting a text at a word -/

/-- A text is cut at a word that occurs no earlier. An earlier occurrence would end before the last
character of this one. -/
theorem splitFirst?_append {word before : List Char} (first : ¬word <:+: before ++ word.dropLast)
    (rest : List Char) :
    splitFirst? word (before ++ (word ++ rest)) = some (before, rest) := by
  induction before with
  | nil =>
      rw [List.nil_append]
      cases chars_eq : word ++ rest with
      | nil => simp_all [splitFirst?, afterWord?]
      | cons char chars =>
          have found := afterWord?_append word rest
          rw [chars_eq] at found
          rw [splitFirst?, found]
  | cons char before ih =>
      have later : ¬word <:+: before ++ word.dropLast :=
        fun occurs => first (List.infix_cons occurs)
      have not_here : afterWord? word (char :: (before ++ (word ++ rest))) = none := by
        rw [← Option.not_isSome_iff_eq_none, isSome_afterWord?_iff]
        intro here
        have fits : (char :: before) ++ word.dropLast <+: char :: (before ++ (word ++ rest)) := by
          rw [List.cons_append, List.cons_prefix_cons]
          exact ⟨rfl, List.prefix_append_right_inj before |>.mpr
            ((List.dropLast_prefix word).trans (List.prefix_append word rest))⟩
        have length_le : word.length ≤ ((char :: before) ++ word.dropLast).length := by
          simp only [List.length_append, List.length_cons, List.length_dropLast]
          omega
        exact first (List.prefix_of_prefix_length_le here fits length_le).isInfix
      rw [List.cons_append, splitFirst?, not_here, ih later]
      rfl

theorem splitLast?_eq_none_iff {word chars : List Char} :
    splitLast? word chars = none ↔ ¬word <:+: chars := by
  induction chars with
  | nil =>
      rw [splitLast?, Option.map_eq_none_iff, ← Option.not_isSome_iff_eq_none,
        isSome_afterWord?_iff, List.prefix_nil, List.infix_nil]
  | cons char chars ih =>
      rw [List.infix_cons_iff, not_or, ← ih, ← isSome_afterWord?_iff,
        Option.not_isSome_iff_eq_none, splitLast?]
      cases splitLast? word chars <;> simp

/-- A text is cut at a word that occurs no later. A later occurrence would start behind the first
character of this one. -/
theorem splitLast?_append {word rest : List Char} (some_char : word ≠ [])
    (last : ¬word <:+: word.tail ++ rest) (before : List Char) :
    splitLast? word (before ++ (word ++ rest)) = some (before, rest) := by
  induction before with
  | nil =>
      rcases List.exists_cons_of_ne_nil some_char with ⟨char, chars, rfl⟩
      have found := afterWord?_append (char :: chars) rest
      have not_later : splitLast? (char :: chars) (chars ++ rest) = none :=
        splitLast?_eq_none_iff.mpr last
      rw [List.cons_append] at found
      rw [List.nil_append, List.cons_append, splitLast?, not_later, found]
      rfl
  | cons char before ih => rw [List.cons_append, splitLast?, ih]

/-! ### Letter case -/

/-- A line mentions a word in some letter case. -/
def Mentions (word line : String) : Prop :=
  lower word <:+: lower line

instance (word line : String) : Decidable (Mentions word line) :=
  inferInstanceAs (Decidable (lower word <:+: lower line))

/-- The lines of a text that mention a word. -/
def linesMentioning (word text : String) : List String :=
  (lines text).filter fun line => Mentions word line

theorem linesMentioning_eq (word text : String) :
    linesMentioning word text =
      (lines text).filter fun line => containsWord (lower word) (lower line) := by
  refine List.filter_congr fun line _ => ?_
  rw [Bool.eq_iff_iff, containsWord_iff, decide_eq_true_iff, Mentions]

theorem linesMentioning_ne_nil_iff {word text : String} :
    linesMentioning word text ≠ [] ↔ ∃ line ∈ lines text, Mentions word line := by
  simp [linesMentioning]

end TapeAdmin.Text
