import TapeAdmin.Text.LetterCase

/-!
# Words in capitals

Raising a text spells some characters out as several letters, and gives some letters outside ASCII
ASCII capitals. A word of which none of them yields a part is found in a raised text exactly if the
text itself holds the word, with each letter either capital or small.
-/

namespace TapeAdmin.Text

variable {char : Char} {word chars : List Char}

/-! ### Raising a character -/

theorem toNat_of_isUpper (upper : char.isUpper = true) : 0 < char.toNat ∧ char.toNat < 0x80 := by
  rcases of_decide_eq_true upper with ⟨from_a, to_z⟩
  have low : 65 ≤ char.toNat := UInt32.le_iff_toNat_le.mp from_a
  have high : char.toNat ≤ 90 := UInt32.le_iff_toNat_le.mp to_z
  omega

theorem toNat_ofNat_eq (code : Nat) :
    (Char.ofNat code).toNat = code ∨ (Char.ofNat code).toNat = 0 := by
  by_cases valid : code.isValidChar
  · exact .inl (congrArg Char.toNat (dif_pos valid))
  · exact .inr (congrArg Char.toNat (dif_neg valid))

/-- The number of a capital ASCII letter is that of an ASCII character. -/
theorem lt_of_isUpper_ofNat {code : Nat} (upper : (Char.ofNat code).isUpper = true) :
    code < 0x80 := by
  have bounds := toNat_of_isUpper upper
  rcases toNat_ofNat_eq code with same | zero <;> omega

theorem lookup_of_ascii {α : Type} {table : List (Nat × α)}
    (beyond : ∀ entry ∈ table, 0x80 ≤ entry.1) (ascii : char.toNat < 0x80) :
    table.lookup char.toNat = none := by
  refine List.lookup_eq_none_iff.mpr fun entry entry_mem => ?_
  have entry_beyond := beyond entry entry_mem
  exact bne_iff_ne.mpr (by omega)

/-- The capital letter of an ASCII character is by the rule for ASCII. -/
theorem capital_of_ascii (ascii : char.toNat < 0x80) : capital char = char.toUpper := by
  have none_shared : sharedCapitals.lookup char.toNat = none :=
    lookup_of_ascii (by decide +kernel) ascii
  rw [capital, none_shared]
  by_cases small : 0x61 ≤ char.toNat ∧ char.toNat ≤ 0x7A
  · have first_run : (capitalRuns.find? fun run => run.raises char.toNat) =
        some ⟨0x41, 0x5A, 1, 0x61⟩ :=
      List.find?_cons_of_pos (by simp [CapitalRun.raises, small, Nat.mod_one])
    have table : ∀ code : Fin 0x80, 0x61 ≤ code.val ∧ code.val ≤ 0x7A →
        (Char.ofNat code).toUpper = Char.ofNat (0x41 + (code - 0x61)) := by
      decide +kernel
    have raised := table ⟨char.toNat, ascii⟩ small
    rw [Char.ofNat_toNat] at raised
    rw [first_run, raised]
  · -- Some runs outside ASCII have small letters in it, but only such as the first run has.
    have spans : ∀ run ∈ capitalRuns, 0x80 ≤ run.small ∨
        0x61 ≤ run.small ∧ run.small + (run.last - run.first) ≤ 0x7A := by
      decide +kernel
    have none_raises : (capitalRuns.find? fun run => run.raises char.toNat) = none := by
      refine List.find?_eq_none.mpr fun run run_mem raises => ?_
      simp only [CapitalRun.raises, Bool.and_eq_true, decide_eq_true_eq] at raises
      rcases spans run run_mem with high | low <;> omega
    have not_small : ¬('a'.val ≤ char.val ∧ char.val ≤ 'z'.val) := small
    have same : char.toUpper = char := dif_neg not_small
    rw [none_raises, same]

/-- Raising an ASCII character yields an ASCII character. -/
theorem upperChar_of_ascii (ascii : char.toNat < 0x80) : upperChar char = [char.toUpper] := by
  have none_spelled : spelledOut.lookup char.toNat = none :=
    lookup_of_ascii (by decide +kernel) ascii
  rw [upperChar, none_spelled, capital_of_ascii ascii]

/-- A capital ASCII letter that is not shared is the capital letter of its small letter and of
itself only. -/
theorem toUpper_eq_of_capital (upper : (capital char).isUpper = true)
    (alone : ∀ entry ∈ sharedCapitals, Char.ofNat entry.2 ≠ capital char) :
    char.toUpper = capital char := by
  by_cases ascii : char.toNat < 0x80
  · exact (capital_of_ascii ascii).symm
  · -- Outside ASCII no capital letter but a shared one is an ASCII letter.
    exfalso
    rw [capital] at upper alone
    split at upper
    · next code found =>
        rw [found] at alone
        rcases List.lookup_eq_some_iff.mp found with ⟨before, after, table, _⟩
        exact alone (char.toNat, code) (by simp [table]) rfl
    · split at upper
      · next run found =>
          have beyond : ∀ run ∈ capitalRuns,
              run.small + (run.last - run.first) < 0x80 ∨ 0x80 ≤ run.first := by
            decide +kernel
          have raises := List.find?_some found
          simp only [CapitalRun.raises, Bool.and_eq_true, decide_eq_true_eq] at raises
          have small := lt_of_isUpper_ofNat upper
          rcases beyond run (List.mem_of_find?_eq_some found) with low | high <;> omega
      · exact ascii (toNat_of_isUpper upper).2

/-- What is raised to an ASCII letter by the rule for ASCII is an ASCII character. -/
theorem toNat_lt_of_toUpper (upper : char.toUpper.isUpper = true) : char.toNat < 0x80 := by
  by_cases small : char.val ≥ 'a'.val ∧ char.val ≤ 'z'.val
  · have le_z : char.toNat ≤ 'z'.toNat := small.2
    exact Nat.lt_of_le_of_lt le_z (by decide)
  · have same : char.toUpper = char := dif_neg small
    rw [same] at upper
    exact (toNat_of_isUpper upper).2

theorem upperChar_cases (char : Char) :
    (∃ entry ∈ spelledOut, upperChar char = entry.2.map Char.ofNat) ∨
      upperChar char = [capital char] := by
  rw [upperChar]
  split
  · next codes found =>
      rcases List.lookup_eq_some_iff.mp found with ⟨before, after, table, _⟩
      exact .inl ⟨(char.toNat, codes), by simp [table], rfl⟩
  · exact .inr rfl

/-! ### Raising a text -/

/-- A word in capitals of which no character yields a part: none of its letters is shared, and what
is spelled out as several characters has neither its first nor its last letter, and a character that
is none of its letters. -/
structure IsRaisedAlone (word : List Char) : Prop where
  capitals : word.all Char.isUpper = true
  alone : ∀ entry ∈ sharedCapitals, Char.ofNat entry.2 ∉ word
  first : ∀ entry ∈ spelledOut, ∀ code ∈ entry.2, word.head? ≠ some (Char.ofNat code)
  last : ∀ entry ∈ spelledOut, ∀ code ∈ entry.2, word.getLast? ≠ some (Char.ofNat code)
  foreign : ∀ entry ∈ spelledOut, ∃ code ∈ entry.2, Char.ofNat code ∉ word

namespace IsRaisedAlone

theorem isUpper (raised : IsRaisedAlone word) (char_mem : char ∈ word) : char.isUpper = true :=
  List.all_eq_true.mp raised.capitals char char_mem

theorem upperChar_eq (raised : IsRaisedAlone word) (char_mem : char.toUpper ∈ word) :
    upperChar char = [char.toUpper] :=
  upperChar_of_ascii (toNat_lt_of_toUpper (raised.isUpper char_mem))

theorem toUpper_eq (raised : IsRaisedAlone word) (char_mem : capital char ∈ word) :
    char.toUpper = capital char := by
  apply toUpper_eq_of_capital (raised.isUpper char_mem)
  intro entry entry_mem same
  exact raised.alone entry entry_mem (same ▸ char_mem)

/-- What is spelled out does not stand where the rest of the word is read: it holds a character that
the word does not have, and not the letter with which the word ends. -/
theorem not_prefix_spelled (raised : IsRaisedAlone word) {ending rest : List Char}
    {entry : Nat × List Nat} (entry_mem : entry ∈ spelledOut) (some_letter : ending ≠ [])
    (ends : ending <:+ word) : ¬ending <+: entry.2.map Char.ofNat ++ rest := by
  intro starts
  rcases List.prefix_or_prefix_of_prefix starts (List.prefix_append _ rest) with short | long
  · rcases ends with ⟨front, rfl⟩
    have last := List.getLast?_eq_some_getLast some_letter
    have word_last : (front ++ ending).getLast? = some (ending.getLast some_letter) := by
      rw [List.getLast?_append, last, Option.some_or]
    rcases List.mem_map.mp (short.subset (List.getLast_mem some_letter)) with
      ⟨code, code_mem, same⟩
    exact raised.last entry entry_mem code code_mem (same ▸ word_last)
  · rcases raised.foreign entry entry_mem with ⟨code, code_mem, foreign⟩
    exact foreign (ends.subset (long.subset (List.mem_map_of_mem code_mem)))

/-- A raised text that starts with an end of the word is that of a text that starts with it. -/
theorem exists_prefix (raised : IsRaisedAlone word) {ending : List Char} (ends : ending <:+ word)
    (starts : ending <+: chars.flatMap upperChar) :
    ∃ spelling, spelling <+: chars ∧ spelling.map Char.toUpper = ending := by
  induction chars generalizing ending with
  | nil => exact ⟨[], List.prefix_rfl, (List.prefix_nil.mp starts).symm⟩
  | cons char chars ih =>
      cases ending with
      | nil => exact ⟨[], List.nil_prefix, rfl⟩
      | cons letter letters =>
          rw [List.flatMap_cons] at starts
          rcases upperChar_cases char with ⟨entry, entry_mem, spelled⟩ | single
          · rw [spelled] at starts
            exact absurd starts
              (raised.not_prefix_spelled entry_mem (List.cons_ne_nil _ _) ends)
          · rw [single, List.singleton_append, List.cons_prefix_cons] at starts
            rcases starts with ⟨rfl, starts⟩
            rcases ih ((List.suffix_cons _ _).trans ends) starts with ⟨spelling, spelled, same⟩
            refine ⟨char :: spelling, List.cons_prefix_cons.mpr ⟨rfl, spelled⟩, ?_⟩
            rw [List.map_cons, same, raised.toUpper_eq (ends.subset List.mem_cons_self)]

/-- The word does not start in what is spelled out. -/
theorem infix_of_infix_spelled (raised : IsRaisedAlone word) {rest : List Char}
    {entry : Nat × List Nat} (entry_mem : entry ∈ spelledOut)
    (occurs : word <:+: entry.2.map Char.ofNat ++ rest) : word <:+: rest := by
  cases word with
  | nil => exact List.nil_infix
  | cons letter letters =>
      have first : letter ∉ entry.2.map Char.ofNat := by
        intro letter_mem
        rcases List.mem_map.mp letter_mem with ⟨code, code_mem, same⟩
        exact raised.first entry entry_mem code code_mem (congrArg some same.symm)
      rcases List.infix_append_iff.mp occurs with
        inside | later | ⟨front, back, parts, ends, starts⟩
      · exact absurd (inside.subset List.mem_cons_self) first
      · exact later
      · cases front with
        | nil =>
            rw [List.nil_append] at parts
            exact (parts ▸ starts).isInfix
        | cons other others =>
            cases parts
            exact absurd (ends.subset List.mem_cons_self) first

/-- The word is found in a raised text exactly if the text holds it in some letter case. -/
theorem infix_flatMap_iff (raised : IsRaisedAlone word) :
    word <:+: chars.flatMap upperChar ↔
      ∃ spelling, spelling <:+: chars ∧ spelling.map Char.toUpper = word := by
  constructor
  · intro occurs
    induction chars with
    | nil => exact ⟨[], List.infix_rfl, (List.infix_nil.mp occurs).symm⟩
    | cons char chars ih =>
        have found_later (later : word <:+: chars.flatMap upperChar) :
            ∃ spelling, spelling <:+: char :: chars ∧ spelling.map Char.toUpper = word := by
          rcases ih later with ⟨spelling, spelled, same⟩
          exact ⟨spelling, List.infix_cons spelled, same⟩
        rcases upperChar_cases char with ⟨entry, entry_mem, spelled⟩ | single
        · rw [List.flatMap_cons, spelled] at occurs
          exact found_later (raised.infix_of_infix_spelled entry_mem occurs)
        · have split := occurs
          rw [List.flatMap_cons, single, List.singleton_append, List.infix_cons_iff] at split
          rcases split with here | later
          · rw [← List.singleton_append, ← single, ← List.flatMap_cons] at here
            rcases raised.exists_prefix List.suffix_rfl here with ⟨spelling, spelled, same⟩
            exact ⟨spelling, spelled.isInfix, same⟩
          · exact found_later later
  · rintro ⟨spelling, ⟨before, after, rfl⟩, same⟩
    have raised_eq : spelling.flatMap upperChar = word := by
      rw [← same, List.map_eq_flatMap, List.flatMap_def, List.flatMap_def]
      refine congrArg List.flatten (List.map_congr_left fun char char_mem => ?_)
      exact raised.upperChar_eq (same ▸ List.mem_map_of_mem char_mem)
    rw [List.flatMap_append, List.flatMap_append, raised_eq]
    exact ⟨_, _, rfl⟩

end IsRaisedAlone

end TapeAdmin.Text
