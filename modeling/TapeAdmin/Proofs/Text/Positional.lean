import TapeAdmin.Proofs.Text.Digits

/-!
# Positional numbers

The numbers that digits denote, without a reader: a digit stands for its place in the row of digits,
and a digit behind others counts them once more for each unit of the base. The readers of numbers
accept exactly such digits, and what is written of a number denotes it, with zeros in front or
without.
-/

namespace TapeAdmin.Text

variable {base value number limit : Nat} {char : Char} {digits : List Char}

/-- The digits up to base sixteen, each at the place of its value. -/
def digitRow : List Char :=
  ['0', '1', '2', '3', '4', '5', '6', '7', '8', '9', 'a', 'b', 'c', 'd', 'e', 'f']

/-- A character is the digit of a value in a base, a letter in either case. -/
def IsDigitOf (base : Nat) (char : Char) (value : Nat) : Prop :=
  value < base ∧ digitRow[value]? = some char.toLower

instance (base : Nat) (char : Char) (value : Nat) : Decidable (IsDigitOf base char value) :=
  inferInstanceAs (Decidable (_ ∧ _))

/-- One or more digits, and the number that they denote. -/
inductive Denotes (base : Nat) : List Char → Nat → Prop where
  | digit {char : Char} {value : Nat} (here : IsDigitOf base char value) :
      Denotes base [char] value
  | append {digits : List Char} {char : Char} {number value : Nat}
      (front : Denotes base digits number) (here : IsDigitOf base char value) :
      Denotes base (digits ++ [char]) (number * base + value)

/-! ### Reading digits -/

theorem digitValue?_eq_some_iff_lt (small : base ≤ 16) :
    digitValue? base char = some value ↔ value < base ∧ digitValue? 16 char = some value := by
  simp only [digitValue?, Option.filter_eq_some_iff, decide_eq_true_eq]
  constructor
  · rintro ⟨found, below⟩
    exact ⟨below, found, by omega⟩
  · rintro ⟨below, found, _⟩
    exact ⟨found, below⟩

/-- The digits that are read are those of the row. -/
theorem digitValue?_eq_some_iff (small : base ≤ 16) :
    digitValue? base char = some value ↔ IsDigitOf base char value := by
  rw [digitValue?_eq_some_iff_lt small, IsDigitOf]
  refine and_congr_right fun below => ?_
  by_cases ascii : char.toNat < 0x80
  · have table : ∀ (code : Fin 0x80) (value : Fin 16),
        digitValue? 16 (Char.ofNat code) = some value.val ↔
          digitRow[value.val]? = some (Char.ofNat code).toLower := by
      decide +kernel
    have entry := table ⟨char.toNat, ascii⟩ ⟨value, by omega⟩
    rwa [Char.ofNat_toNat] at entry
  · -- Outside ASCII nothing is read, and no letter has its small one in the row.
    rw [toLower_of_not_ascii ascii]
    constructor
    · exact fun found => absurd (toNat_lt_of_digitValue? found) ascii
    · intro found
      have row_ascii : digitRow.all fun digit => digit.toNat < 0x80 := by decide
      have char_ascii := List.all_eq_true.mp row_ascii char (List.mem_of_getElem? found)
      exact absurd (of_decide_eq_true char_ascii) ascii

theorem digitsFrom?_concat (chars : List Char) (char : Char) (value : Nat) :
    digitsFrom? base value (chars ++ [char]) =
      (digitsFrom? base value chars).bind fun number =>
        (digitValue? base char).map (number * base + ·) := by
  induction chars generalizing value with
  | nil =>
      rw [List.nil_append, digitsFrom?_nil, Option.bind_some, digitsFrom?]
      cases digitValue? base char <;> rfl
  | cons first chars ih =>
      rw [List.cons_append, digitsFrom?, digitsFrom?]
      cases digitValue? base first with
      | none => rfl
      | some digit => exact ih (value * base + digit)

/-- Digits are read as the number that they denote. -/
theorem digitsFrom?_eq_some_iff (small : base ≤ 16) (some_digit : digits ≠ []) :
    digitsFrom? base 0 digits = some number ↔ Denotes base digits number := by
  constructor
  · induction digits using List.reverseRecOn generalizing number with
    | nil => exact absurd rfl some_digit
    | append_singleton front char ih =>
        intro read
        rw [digitsFrom?_concat, Option.bind_eq_some_iff] at read
        rcases read with ⟨earlier, front_read, here⟩
        rcases Option.map_eq_some_iff.mp here with ⟨value, found, rfl⟩
        have is_digit := (digitValue?_eq_some_iff small).mp found
        by_cases first : front = []
        · subst first
          cases front_read
          rw [Nat.zero_mul, Nat.zero_add]
          exact .digit is_digit
        · exact .append (ih first front_read) is_digit
  · intro denotes
    induction denotes with
    | digit here =>
        rw [digitsFrom?_cons ((digitValue?_eq_some_iff small).mpr here), digitsFrom?_nil,
          Nat.zero_mul, Nat.zero_add]
    | @append digits char number value front here ih =>
        have front_some : digits ≠ [] := by
          cases front <;> simp
        rw [digitsFrom?_concat, ih front_some, Option.bind_some,
          (digitValue?_eq_some_iff small).mpr here]
        rfl

theorem Denotes.ne_nil (denotes : Denotes base digits number) : digits ≠ [] := by
  cases denotes <;> simp

/-- Every character of a number is a hexadecimal digit. -/
theorem Denotes.isHexDigit (small : base ≤ 16) (denotes : Denotes base digits number) :
    ∀ digit ∈ digits, IsHexDigit digit :=
  isHexDigit_of_digitsFrom? ((digitsFrom?_eq_some_iff small denotes.ne_nil).mpr denotes)

/-- A bounded number is read from its digits, behind a plus sign or without one. -/
theorem readBounded_eq_ok_iff (positive : 0 < base) (small : base ≤ 16) {text : String} :
    readBounded base limit text = .ok number ↔
      ∃ sign digits, (sign = [] ∨ sign = ['+']) ∧ text.toList = sign ++ digits ∧
        Denotes base digits number ∧ number ≤ limit := by
  have reads {digits : List Char} (some_digit : digits ≠ []) :
      boundedFrom base limit 0 digits = .ok number ↔
        Denotes base digits number ∧ number ≤ limit := by
    rw [boundedFrom_eq_ok_iff positive (Nat.zero_le _), digitsFrom?_eq_some_iff small some_digit]
  have nothing : ¬Denotes base [] number := fun denotes => denotes.ne_nil rfl
  have unsigned {sign : Char} (is_sign : ¬IsHexDigit sign) (digits : List Char) :
      ¬Denotes base (sign :: digits) number :=
    fun denotes => is_sign (denotes.isHexDigit small sign List.mem_cons_self)
  have no_plus := unsigned (show ¬IsHexDigit '+' by decide)
  have no_minus := unsigned (show ¬IsHexDigit '-' by decide)
  rw [readBounded]
  generalize text.toList = chars
  split
  · simp [nothing]
  · simp [nothing, no_plus]
  · simp [no_minus]
  · next digits not_alone =>
      have some_digit : digits ≠ [] := by
        rintro rfl
        exact not_alone rfl
      simp [reads some_digit, no_plus]
  · next some_char _ _ no_sign =>
      rw [reads some_char]
      constructor
      · exact fun ⟨denotes, within⟩ => ⟨[], chars, .inl rfl, rfl, denotes, within⟩
      · rintro ⟨sign, digits, rfl | rfl, rfl, denotes, within⟩
        · exact ⟨denotes, within⟩
        · exact (no_sign digits rfl).elim

/-! ### Writing digits -/

/-- A zero in front of digits does not change their number. -/
theorem Denotes.zero_cons (positive : 0 < base) (denotes : Denotes base digits number) :
    Denotes base ('0' :: digits) number := by
  have zero : IsDigitOf base '0' 0 := ⟨positive, by decide⟩
  induction denotes with
  | @digit char value here =>
      have behind := Denotes.append (.digit zero) here
      rwa [Nat.zero_mul, Nat.zero_add] at behind
  | append front here ih => exact ih.append here

theorem Denotes.leftpad (positive : 0 < base) (denotes : Denotes base digits number)
    (width : Nat) : Denotes base (digits.leftpad width '0') number := by
  rw [List.leftpad]
  induction width - digits.length with
  | zero => exact denotes
  | succ zeros ih => exact ih.zero_cons positive

theorem isDigitOf_digitChar (small : base ≤ 16) (below : value < base) :
    IsDigitOf base value.digitChar value := by
  have row : ∀ value : Fin 16, digitRow[value.val]? = some value.val.digitChar.toLower := by decide
  exact ⟨below, row ⟨value, by omega⟩⟩

/-- What is written of a number denotes it. -/
theorem denotes_toDigits (two_le : 2 ≤ base) (small : base ≤ 16) (number : Nat) :
    Denotes base (Nat.toDigits base number) number := by
  induction number using Nat.strongRecOn with
  | ind number ih =>
      rw [Nat.toDigits_eq_if (by omega)]
      split
      · next below => exact .digit (isDigitOf_digitChar small below)
      · next beyond =>
          have smaller : number / base < number := Nat.div_lt_self (by omega) (by omega)
          have last := isDigitOf_digitChar small (Nat.mod_lt number (by omega : base > 0))
          have behind := (ih _ smaller).append last
          rwa [Nat.mul_comm, Nat.div_add_mod] at behind

end TapeAdmin.Text
