import TapeAdmin.Device.Name
import TapeAdmin.Proofs.File.Path
import TapeAdmin.Proofs.Text.Digits

/-!
# What a device name is made of

A text that is read as the name of a device node is `st`, with an `n` in front unless the node
rewinds, then digits, then the letter of the mode. It can therefore stand as a name in a directory,
and it ends in a mode letter only if the mode is not the default one.
-/

namespace TapeAdmin

namespace DensityMode

theorem suffix_of_ofLetter? {letter : Char} {mode : DensityMode}
    (known : ofLetter? letter = some mode) : mode.suffix = [letter] := by
  unfold ofLetter? at known
  split at known
  all_goals cases known
  all_goals rfl

end DensityMode

namespace DeviceName

/-- What stands in front of the number. -/
def stem (rewinding : Bool) : List Char :=
  if rewinding then ['s', 't'] else ['n', 's', 't']

/-! ### The parts of a name -/

theorem splitStem?_eq_some_iff {chars tail : List Char} {rewinding : Bool} :
    splitStem? chars = some (rewinding, tail) ↔ chars = stem rewinding ++ tail := by
  constructor
  · intro split
    unfold splitStem? at split
    split at split
    all_goals cases split
    all_goals rfl
  · rintro rfl
    cases rewinding <;> rfl

theorem modeOf?_eq_some_iff {chars : List Char} {mode : DensityMode} :
    modeOf? chars = some mode ↔ chars = mode.suffix := by
  constructor
  · intro read
    unfold modeOf? at read
    split at read
    · cases read
      rfl
    · exact (DensityMode.suffix_of_ofLetter? read).symm
    · cases read
  · rintro rfl
    cases mode <;> rfl

theorem driveOf?_eq_some_iff {digits : List Char} {drive : Nat} :
    driveOf? digits = some drive ↔
      digits ≠ [] ∧ (∀ digit ∈ digits, digit.isDigit = true) ∧
        Nat.ofDigitChars 10 digits 0 = drive ∧ drive ≤ driveLimit := by
  have bounded : (Text.boundedFrom 10 driveLimit 0 digits).toOption = some drive ↔
      Text.boundedFrom 10 driveLimit 0 digits = .ok drive := by
    cases Text.boundedFrom 10 driveLimit 0 digits <;> simp [Except.toOption]
  rw [driveOf?]
  split
  · next none_left => simp_all
  · next some_left =>
      rw [bounded, Text.boundedFrom_eq_ok_iff (by decide) (Nat.zero_le _),
        Text.digitsFrom?_ten_eq_some_iff, and_assoc]
      simp_all

/-- An ASCII digit is a digit of some script. -/
theorem isNumeral_of_isDigit {char : Char} (is_digit : char.isDigit = true) :
    Text.isNumeral char = true := by
  rw [Char.isDigit_iff_toNat] at is_digit
  refine List.any_eq_true.mpr ⟨'0'.toNat, by decide, ?_⟩
  simp only [Char.reduceToNat, Bool.and_eq_true, decide_eq_true_eq] at is_digit ⊢
  omega

/-- The digits end where the letter of the mode stands. -/
theorem span_digits_append {digits : List Char}
    (all_digits : ∀ digit ∈ digits, digit.isDigit = true) (mode : DensityMode) :
    (digits ++ mode.suffix).takeWhile Text.isNumeral = digits ∧
      (digits ++ mode.suffix).dropWhile Text.isNumeral = mode.suffix := by
  have numerals : ∀ digit ∈ digits, Text.isNumeral digit = true :=
    fun digit digit_mem => isNumeral_of_isDigit (all_digits digit digit_mem)
  have no_letter : mode.suffix.takeWhile Text.isNumeral = [] ∧
      mode.suffix.dropWhile Text.isNumeral = mode.suffix := by
    cases mode <;> decide
  rw [List.takeWhile_append_of_pos numerals, List.dropWhile_append_of_pos numerals, no_letter.1,
    no_letter.2, List.append_nil]
  exact ⟨rfl, rfl⟩

/-- No reserved name has a digit where the number would start. -/
theorem not_reserved {name : String} {rewinding : Bool} {digit : Char} {rest : List Char}
    (is_digit : digit.isDigit = true) (chars : name.toList = stem rewinding ++ digit :: rest) :
    name ∉ reserved := by
  intro name_mem
  simp only [reserved, List.mem_cons, List.not_mem_nil, or_false] at name_mem
  rcases name_mem with rfl | rfl | rfl
  all_goals
    cases rewinding <;> simp [stem] at chars
    rw [← chars.1] at is_digit
    cases is_digit

/-! ### Names -/

/-- A text is read as a device name exactly if it is a stem, ASCII digits whose number fits, and the
letter of the mode. -/
theorem parse?_eq_some_iff {name : String} {parsed : DeviceName} :
    parse? name = some parsed ↔
      ∃ digits, digits ≠ [] ∧ (∀ digit ∈ digits, digit.isDigit = true) ∧
        Nat.ofDigitChars 10 digits 0 = parsed.drive ∧ parsed.drive ≤ driveLimit ∧
        name.toList = stem parsed.rewinding ++ (digits ++ parsed.mode.suffix) := by
  constructor
  · intro read
    rw [parse?] at read
    split at read
    · cases read
    · simp only [Option.bind_eq_bind, Option.bind_eq_some_iff, Option.pure_def,
        Option.some.injEq, Prod.exists] at read
      rcases read with ⟨rewinding, tail, split, mode, mode_read, drive, drive_read, rfl⟩
      rcases driveOf?_eq_some_iff.mp drive_read with ⟨some_digit, all_digits, number, small⟩
      refine ⟨_, some_digit, all_digits, number, small, ?_⟩
      rw [← modeOf?_eq_some_iff.mp mode_read, List.takeWhile_append_dropWhile]
      exact splitStem?_eq_some_iff.mp split
  · rintro ⟨digits, some_digit, all_digits, number, small, chars⟩
    rcases List.exists_cons_of_ne_nil some_digit with ⟨first, rest, digits_eq⟩
    have free : name ∉ reserved := by
      apply not_reserved (all_digits first (by simp [digits_eq]))
      rw [chars, digits_eq]
      rfl
    rcases span_digits_append all_digits parsed.mode with ⟨digits_taken, letter_left⟩
    rw [parse?, if_neg (by simpa using free), splitStem?_eq_some_iff.mpr chars]
    simp only [Option.bind_eq_bind, Option.bind_some, digits_taken, letter_left,
      modeOf?_eq_some_iff.mpr rfl,
      driveOf?_eq_some_iff.mpr ⟨some_digit, all_digits, number, small⟩, Option.pure_def]

/-- A text that is read as a device name is a stem, digits and the letter of the mode. -/
theorem toList_of_parse? {name : String} {parsed : DeviceName} (read : parse? name = some parsed) :
    ∃ digits, digits ≠ [] ∧ (∀ digit ∈ digits, digit.isDigit = true) ∧
      name.toList = stem parsed.rewinding ++ (digits ++ parsed.mode.suffix) := by
  rcases parse?_eq_some_iff.mp read with ⟨digits, some_digit, all_digits, _, _, chars⟩
  exact ⟨digits, some_digit, all_digits, chars⟩

theorem isPlainName_of_parse? {name : String} {parsed : DeviceName}
    (read : parse? name = some parsed) : FilePath.IsPlainName name := by
  rcases toList_of_parse? read with ⟨digits, _, all_digits, chars⟩
  have not_separator : '/' ∉ name.toList := by
    have in_digits : '/' ∉ digits := fun separator => absurd (all_digits _ separator) (by decide)
    have in_suffix : '/' ∉ parsed.mode.suffix := by cases parsed.mode <;> decide
    have in_stem : '/' ∉ stem parsed.rewinding := by cases parsed.rewinding <;> decide
    simp [chars, in_digits, in_suffix, in_stem]
  have long : 2 < name.toList.length ∨ name.toList.head? = some 's' := by
    cases kind : parsed.rewinding <;> simp [chars, kind, stem]
  constructor
  · rintro rfl
    simp at long
  · exact not_separator
  · rintro rfl
    simp at long
  · rintro rfl
    simp at long

/-- The letter of the mode is the last one of the name. -/
theorem endsInModeLetter_of_parse? {name : String} {parsed : DeviceName}
    (read : parse? name = some parsed) : endsInModeLetter name = !parsed.mode.isDefault := by
  rcases toList_of_parse? read with ⟨digits, some_digit, all_digits, chars⟩
  rcases List.eq_nil_or_concat digits with rfl | ⟨front, last, rfl⟩
  · exact absurd rfl some_digit
  · have last_digit : last.isDigit = true := all_digits last (by simp)
    have no_letter : DensityMode.ofLetter? last = none := by
      unfold DensityMode.ofLetter?
      split
      all_goals first | rfl | cases last_digit
    cases mode : parsed.mode with
    | default => simp [endsInModeLetter, chars, mode, DensityMode.suffix, no_letter,
        DensityMode.isDefault]
    | auto => simp [endsInModeLetter, chars, mode, DensityMode.suffix, DensityMode.ofLetter?,
        DensityMode.isDefault]
    | low => simp [endsInModeLetter, chars, mode, DensityMode.suffix, DensityMode.ofLetter?,
        DensityMode.isDefault]
    | medium => simp [endsInModeLetter, chars, mode, DensityMode.suffix, DensityMode.ofLetter?,
        DensityMode.isDefault]

end DeviceName

end TapeAdmin
