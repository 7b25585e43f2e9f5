import TapeAdmin.Proofs.Device.Name

/-!
# The spellings of device names

What a device name says determines its spelling but for the zeros in front of its number. The
spelling without such zeros is the canonical one, and every other is made of it by adding some.
-/

namespace TapeAdmin.DeviceName

variable {name : String} {parsed : DeviceName}

theorem toList_canonical (parsed : DeviceName) :
    parsed.canonical.toList =
      stem parsed.rewinding ++ (Nat.toDigits 10 parsed.drive ++ parsed.mode.suffix) := by
  rw [canonical, String.toList_ofList, Nat.toString_eq_ofList_toDigits, String.toList_ofList]
  cases parsed.rewinding <;> simp [stem]

/-- A name is the canonical one with zeros in front of the number. -/
theorem exists_zeros_of_parse? (read : parse? name = some parsed) :
    ∃ zeros, name.toList =
      stem parsed.rewinding ++
        (List.replicate zeros '0' ++ Nat.toDigits 10 parsed.drive ++ parsed.mode.suffix) := by
  rcases parse?_eq_some_iff.mp read with ⟨digits, some_digit, all_digits, number, _, chars⟩
  rcases Text.exists_zeros some_digit all_digits with ⟨zeros, digits_eq⟩
  rw [number] at digits_eq
  exact ⟨zeros, by rw [chars, digits_eq]⟩

theorem parse?_canonical (small : parsed.drive ≤ driveLimit) :
    parse? parsed.canonical = some parsed := by
  refine parse?_eq_some_iff.mpr ⟨Nat.toDigits 10 parsed.drive, ?_, ?_, ?_, small, ?_⟩
  · exact List.ne_nil_of_length_pos Nat.length_toDigits_pos
  · exact fun digit digit_mem => Nat.isDigit_of_mem_toDigits (by decide) (by decide) digit_mem
  · exact Nat.ofDigitChars_ten_toDigits
  · exact toList_canonical parsed

/--
A text is read as a device name exactly if it is an optional `n`, then `st`, then one or more ASCII
digits whose number fits into 32 bits, then the letter of a mode other than the default one, with
nothing before or after. The number is that of the drive, and the node rewinds exactly if there is
no `n`. So the canonical spelling of every name is read as that name, and two spellings of one name
differ from the canonical one, and from each other, in the zeros in front of the number only.
-/
theorem parse?_spelling :
    (∀ (name : String) (parsed : DeviceName),
      parse? name = some parsed ↔
        ∃ digits : List Char, digits ≠ [] ∧ (∀ digit ∈ digits, '0' ≤ digit ∧ digit ≤ '9') ∧
          Nat.ofDigitChars 10 digits 0 = parsed.drive ∧ parsed.drive ≤ 2 ^ 32 - 1 ∧
          name.toList = (if parsed.rewinding then [] else ['n']) ++ ['s', 't'] ++ digits ++
            parsed.mode.suffix) ∧
    (∀ parsed : DeviceName, parsed.drive ≤ 2 ^ 32 - 1 →
      parse? parsed.canonical = some parsed) ∧
    (∀ (name other : String) (parsed : DeviceName),
      parse? name = some parsed → parse? other = some parsed →
        let front := (if parsed.rewinding then [] else ['n']) ++ ['s', 't']
        let back := Nat.toDigits 10 parsed.drive ++ parsed.mode.suffix
        parsed.canonical.toList = front ++ back ∧
        ∃ zeros more, name.toList = front ++ List.replicate zeros '0' ++ back ∧
          other.toList = front ++ List.replicate more '0' ++ back) := by
  have front_eq : ∀ rewinding : Bool,
      (if rewinding then [] else ['n']) ++ ['s', 't'] = stem rewinding := by decide
  have is_digit_iff : ∀ digit : Char, '0' ≤ digit ∧ digit ≤ '9' ↔ digit.isDigit = true := by
    intro digit
    rw [Char.isDigit_iff_toNat]
    rfl
  refine ⟨?_, ?_, ?_⟩
  · intro name parsed
    simp only [front_eq, is_digit_iff, List.append_assoc]
    exact parse?_eq_some_iff
  · exact fun parsed small => parse?_canonical small
  · intro name other parsed read other_read
    rcases exists_zeros_of_parse? read with ⟨zeros, chars⟩
    rcases exists_zeros_of_parse? other_read with ⟨more, other_chars⟩
    simp only [front_eq, List.append_assoc] at chars other_chars ⊢
    exact ⟨toList_canonical parsed, zeros, more, chars, other_chars⟩

/-- Two spellings of the node of drive 7 for the mode `a` that does not rewind. -/
theorem parse?_spelling_zeros :
    let said : DeviceName := ⟨7, false, .auto⟩
    parse? "nst007a" = some said ∧ parse? "nst07a" = some said ∧
      parse? said.canonical = some said ∧
      ∃ zeros more,
        "nst007a".toList = ['n', 's', 't'] ++ List.replicate zeros '0' ++ ['7', 'a'] ∧
        "nst07a".toList = ['n', 's', 't'] ++ List.replicate more '0' ++ ['7', 'a'] := by
  intro said
  have read : parse? "nst007a" = some said := by decide
  have other_read : parse? "nst07a" = some said := by decide
  have back_eq : Nat.toDigits 10 said.drive ++ said.mode.suffix = ['7', 'a'] := by decide
  rcases parse?_spelling with ⟨_, reads_canonical, zeros_only⟩
  rw [← back_eq]
  exact ⟨read, other_read, reads_canonical said (by decide),
    (zeros_only _ _ _ read other_read).2⟩

/-- Digits of other scripts and numbers of more than 32 bits have the form of a name but are none.
-/
example : parse? "st٣" = none ∧ parse? "st4294967295" = some ⟨4294967295, true, .default⟩ ∧
    parse? "st4294967296" = none := by decide

end TapeAdmin.DeviceName
