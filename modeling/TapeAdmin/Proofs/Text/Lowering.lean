import TapeAdmin.Proofs.Text.Digits
import TapeAdmin.Proofs.Text.LetterCase

/-!
# Words in small letters

Lowering a text gives two characters outside ASCII a small ASCII letter: the capital i with a dot
and the sign for kelvin. So a lowered text is a word without these two letters exactly if the text
itself is the word, with each letter either capital or small.
-/

namespace TapeAdmin.Text

variable {char letter : Char} {word : List Char}

/-- A small ASCII letter that no character outside ASCII is lowered to. -/
def IsLoweredAlone (letter : Char) : Prop :=
  letter.isLower = true ∧ letter ≠ 'i' ∧ letter ≠ 'k'

instance (letter : Char) : Decidable (IsLoweredAlone letter) :=
  inferInstanceAs (Decidable (_ ∧ _))

theorem IsLoweredAlone.toNat (alone : IsLoweredAlone letter) :
    0 < letter.toNat ∧ letter.toNat < 0x80 := by
  rcases Bool.and_eq_true_iff.mp alone.1 with ⟨from_a, to_z⟩
  have low : 97 ≤ letter.toNat := UInt32.le_iff_toNat_le.mp (of_decide_eq_true from_a)
  have high : letter.toNat ≤ 122 := UInt32.le_iff_toNat_le.mp (of_decide_eq_true to_z)
  omega

/-- An ASCII character is lowered by the rule for ASCII. -/
theorem lowerChar_of_ascii (ascii : char.toNat < 0x80) : lowerChar char = [char.toLower] := by
  have table : ∀ code : Fin 0x80,
      lowerChar (Char.ofNat code) = [(Char.ofNat code).toLower] := by
    decide +kernel
  have entry := table ⟨char.toNat, ascii⟩
  rwa [Char.ofNat_toNat] at entry

/-- The small letter of a character outside ASCII is an ASCII letter for the sign for kelvin only.
-/
theorem not_alone_small (beyond : ¬char.toNat < 0x80) : ¬IsLoweredAlone (small char) := by
  intro alone
  rw [small] at alone
  split at alone
  · next run found =>
      have runs : ∀ run ∈ capitalRuns,
          run.last < 0x80 ∨ 0x80 ≤ run.small ∨ run.first = run.last ∧ run.small = 'k'.toNat := by
        decide +kernel
      have holds := List.find?_some found
      simp only [CapitalRun.holds, Bool.and_eq_true, decide_eq_true_eq] at holds
      rcases runs run (List.mem_of_find?_eq_some found) with within | far | ⟨single, kelvin⟩
      · omega
      · have bounds := alone.toNat
        rcases toNat_ofNat_eq (run.small + (char.toNat - run.first)) with same | zero <;> omega
      · have first : char.toNat - run.first = 0 := by omega
        rw [first, kelvin] at alone
        exact absurd alone (by decide)
  · exact beyond alone.toNat.2

/-- The first of the characters to which a character outside ASCII is lowered is no letter that
stands alone. -/
theorem lowerChar_of_not_ascii (beyond : ¬char.toNat < 0x80) :
    ∃ first rest, lowerChar char = first :: rest ∧ ¬IsLoweredAlone first := by
  rw [lowerChar]
  split
  · exact ⟨_, _, rfl, by decide⟩
  · exact ⟨_, _, rfl, not_alone_small beyond⟩

/-- A text that starts outside ASCII is lowered to one that starts with no letter that stands alone,
also if it starts with a capital sigma. -/
theorem lowerBehind_of_not_ascii (beyond : ¬char.toNat < 0x80) (before chars : List Char) :
    ∃ first rest, lowerBehind before (char :: chars) = first :: rest ∧ ¬IsLoweredAlone first := by
  rw [lowerBehind]
  split
  · refine ⟨_, _, rfl, ?_⟩
    split <;> decide
  · rcases lowerChar_of_not_ascii beyond with ⟨first, rest, lowered, other⟩
    rw [lowered]
    exact ⟨first, _, rfl, other⟩

theorem lowerBehind_eq_iff (alone : ∀ letter ∈ word, IsLoweredAlone letter)
    (before chars : List Char) :
    lowerBehind before chars = word ↔ chars.map Char.toLower = word := by
  induction chars generalizing before word with
  | nil => rfl
  | cons char chars ih =>
      rw [List.map_cons]
      by_cases ascii : char.toNat < 0x80
      · have not_sigma : char ≠ 'Σ' := by
          rintro rfl
          exact absurd ascii (by decide)
        rw [lowerBehind, if_neg not_sigma, lowerChar_of_ascii ascii, List.singleton_append]
        cases word with
        | nil => simp
        | cons letter letters =>
            rw [List.cons.injEq, List.cons.injEq]
            exact and_congr_right fun _ => ih (List.forall_mem_cons.mp alone).2 _
      · rcases lowerBehind_of_not_ascii ascii before chars with ⟨first, rest, lowered, other⟩
        rw [lowered, toLower_of_not_ascii ascii]
        constructor
        · rintro rfl
          exact absurd (alone first List.mem_cons_self) other
        · rintro rfl
          exact absurd (alone char List.mem_cons_self).toNat.2 ascii

/-- A text in lower case is such a word exactly if the text is the word in some letter case. -/
theorem lower_eq_iff (alone : ∀ letter ∈ word, IsLoweredAlone letter) {text : String} :
    lower text = word ↔ text.toList.map Char.toLower = word :=
  lowerBehind_eq_iff alone [] text.toList

end TapeAdmin.Text
