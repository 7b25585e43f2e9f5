import TapeAdmin.Text.Digits
import TapeAdmin.Proofs.Text.BigEndian

/-!
# Laws of digits

A digit is an ASCII character with a value below the base, and a number is read from its digits one
after the other.
-/

namespace TapeAdmin.Text

variable {base : Nat} {char : Char} {digit : Nat}

/-- A hexadecimal digit, in either letter case. -/
def IsHexDigit (char : Char) : Prop :=
  ('0' ≤ char ∧ char ≤ '9') ∨ ('a' ≤ char ∧ char ≤ 'f') ∨ ('A' ≤ char ∧ char ≤ 'F')

instance (char : Char) : Decidable (IsHexDigit char) :=
  inferInstanceAs (Decidable (_ ∨ _))

theorem toNat_le_toNat {limit : Char} (le : char ≤ limit) : char.toNat ≤ limit.toNat := le

/-- Outside ASCII the rule for ASCII lowers nothing. -/
theorem toLower_of_not_ascii (beyond : ¬char.toNat < 0x80) : char.toLower = char := by
  refine dif_neg ?_
  rintro ⟨_, to_z⟩
  exact beyond (Nat.lt_of_le_of_lt (toNat_le_toNat to_z) (by decide))

theorem IsHexDigit.toNat_lt (hex : IsHexDigit char) : char.toNat < 0x80 := by
  rcases hex with decimal | lower | capital
  · exact Nat.lt_of_le_of_lt (toNat_le_toNat decimal.2) (by decide)
  · exact Nat.lt_of_le_of_lt (toNat_le_toNat lower.2) (by decide)
  · exact Nat.lt_of_le_of_lt (toNat_le_toNat capital.2) (by decide)

theorem isHexDigit_of_digitValue? (found : digitValue? base char = some digit) :
    IsHexDigit char := by
  simp only [digitValue?, Option.filter_eq_some_iff] at found
  rcases found with ⟨value, _⟩
  split at value
  · next decimal => exact Or.inl decimal
  · split at value
    · next lower => exact Or.inr (Or.inl lower)
    · split at value
      · next capital => exact Or.inr (Or.inr capital)
      · cases value

/-- A hexadecimal digit has a value. -/
theorem exists_digitValue? (hex : IsHexDigit char) : ∃ digit, digitValue? 16 char = some digit := by
  simp only [digitValue?, Option.filter_eq_some_iff, decide_eq_true_eq]
  split
  · next decimal =>
      have bound := toNat_le_toNat decimal.2
      exact ⟨_, rfl, by simp only [Char.reduceToNat] at bound ⊢; omega⟩
  · next not_decimal =>
      split
      · next lower =>
          have bound := toNat_le_toNat lower.2
          exact ⟨_, rfl, by simp only [Char.reduceToNat] at bound ⊢; omega⟩
      · next not_lower =>
          have capital := (hex.resolve_left not_decimal).resolve_left not_lower
          have bound := toNat_le_toNat capital.2
          rw [if_pos capital]
          exact ⟨_, rfl, by simp only [Char.reduceToNat] at bound ⊢; omega⟩

theorem toNat_lt_of_digitValue? (found : digitValue? base char = some digit) :
    char.toNat < 0x80 :=
  (isHexDigit_of_digitValue? found).toNat_lt

theorem lt_of_digitValue? (found : digitValue? base char = some digit) : digit < base := by
  simp only [digitValue?, Option.filter_eq_some_iff] at found
  simpa using found.2

@[simp]
theorem digitsFrom?_nil (base value : Nat) : digitsFrom? base value [] = some value := rfl

theorem digitsFrom?_cons (found : digitValue? base char = some digit) (value : Nat)
    (chars : List Char) :
    digitsFrom? base value (char :: chars) = digitsFrom? base (value * base + digit) chars := by
  simp [digitsFrom?, found]

/-- A zero in front of hexadecimal digits does not change their number. -/
theorem digitsFrom?_zero_cons (chars : List Char) :
    digitsFrom? 16 0 ('0' :: chars) = digitsFrom? 16 0 chars :=
  digitsFrom?_cons (show digitValue? 16 '0' = some 0 by decide) 0 chars

/-- A number is read from digits only. -/
theorem isHexDigit_of_digitsFrom? {chars : List Char} {value number : Nat}
    (found : digitsFrom? base value chars = some number) : ∀ char ∈ chars, IsHexDigit char := by
  induction chars generalizing value with
  | nil => exact fun _ char_mem => absurd char_mem List.not_mem_nil
  | cons char chars ih =>
      rw [digitsFrom?, Option.bind_eq_bind, Option.bind_eq_some_iff] at found
      rcases found with ⟨digit, here, later⟩
      exact List.forall_mem_cons.mpr ⟨isHexDigit_of_digitValue? here, ih later⟩

/-- The character of a byte has the number of the byte. -/
theorem toNat_charOfNat (byte : UInt8) : (Char.ofNat byte.toNat).toNat = byte.toNat := by
  have byte_lt := byte.toNat_lt
  have valid : byte.toNat.isValidChar := Or.inl (by omega)
  rw [Char.ofNat, dif_pos valid]
  rfl

/-- Two hexadecimal digits make a byte. -/
theorem toNat_ofDigits {high low : Nat} (high_lt : high < 16) (low_lt : low < 16) :
    (UInt8.ofNat (high * 16 + low)).toNat = high * 16 + low := by
  rw [UInt8.toNat_ofNat']
  omega

/-- The text of a number tells the number. -/
theorem eq_of_toString_eq {number other : Nat} (same : toString number = toString other) :
    number = other := by
  have digits := congrArg (fun text => Nat.ofDigitChars 10 text.toList 0) same
  simpa [Nat.toString_eq_ofList_toDigits] using digits

/-! ### Decimal digits -/

/-- In base ten the digits are the decimal ones of ASCII. -/
theorem digitValue?_ten_eq_some_iff :
    digitValue? 10 char = some digit ↔ char.isDigit = true ∧ char.toNat - '0'.toNat = digit := by
  simp only [digitValue?, Option.filter_eq_some_iff, Char.isDigit_iff_toNat, Char.reduceToNat]
  constructor
  · rintro ⟨found, small⟩
    split at found
    · next decimal =>
        have low := toNat_le_toNat decimal.1
        have high := toNat_le_toNat decimal.2
        simp only [Char.reduceToNat] at low high
        cases found
        exact ⟨⟨low, high⟩, rfl⟩
    · -- A letter stands for ten at least.
      simp only [decide_eq_true_eq] at small
      split at found
      · cases found
        omega
      · split at found
        · cases found
          omega
        · cases found
  · rintro ⟨⟨low, high⟩, rfl⟩
    have decimal : '0' ≤ char ∧ char ≤ '9' := ⟨low, high⟩
    rw [if_pos decimal]
    exact ⟨rfl, by simp only [decide_eq_true_eq]; omega⟩

/-- A number in base ten is made of decimal digits, and is their positional value. -/
theorem digitsFrom?_ten_eq_some_iff {chars : List Char} {value number : Nat} :
    digitsFrom? 10 value chars = some number ↔
      (∀ char ∈ chars, char.isDigit = true) ∧ Nat.ofDigitChars 10 chars value = number := by
  induction chars generalizing value with
  | nil => simp
  | cons char chars ih =>
      rw [digitsFrom?, Option.bind_eq_bind, Option.bind_eq_some_iff, List.forall_mem_cons,
        Nat.ofDigitChars_cons]
      constructor
      · rintro ⟨digit, here, later⟩
        rcases digitValue?_ten_eq_some_iff.mp here with ⟨is_digit, rfl⟩
        rcases ih.mp later with ⟨all_digits, total⟩
        exact ⟨⟨is_digit, all_digits⟩, by rwa [Nat.mul_comm]⟩
      · rintro ⟨⟨is_digit, all_digits⟩, total⟩
        refine ⟨_, digitValue?_ten_eq_some_iff.mpr ⟨is_digit, rfl⟩, ih.mpr ⟨all_digits, ?_⟩⟩
        rwa [Nat.mul_comm]

/-- Further digits do not make a number smaller. -/
theorem le_of_digitsFrom? (positive : 0 < base) {chars : List Char} {value number : Nat}
    (found : digitsFrom? base value chars = some number) : value ≤ number := by
  induction chars generalizing value with
  | nil =>
      cases found
      exact Nat.le_refl _
  | cons char chars ih =>
      rw [digitsFrom?, Option.bind_eq_bind, Option.bind_eq_some_iff] at found
      rcases found with ⟨digit, _, later⟩
      calc
        value ≤ value * base := Nat.le_mul_of_pos_right value positive
        _ ≤ value * base + digit := Nat.le_add_right _ _
        _ ≤ number := ih later

/-- Reading digit by digit within a limit accepts exactly the numbers within the limit: digits
behind one that goes past it do not bring the number back. -/
theorem boundedFrom_eq_ok_iff (positive : 0 < base) {limit : Nat} {chars : List Char}
    {value number : Nat} (within : value ≤ limit) :
    boundedFrom base limit value chars = .ok number ↔
      digitsFrom? base value chars = some number ∧ number ≤ limit := by
  induction chars generalizing value with
  | nil =>
      simp only [boundedFrom, digitsFrom?_nil, Except.ok.injEq, Option.some.injEq]
      constructor
      · rintro rfl
        exact ⟨rfl, within⟩
      · exact fun ⟨same, _⟩ => same
  | cons char chars ih =>
      rw [boundedFrom]
      split
      · next no_digit => simp [digitsFrom?, no_digit]
      · next digit is_digit =>
          rw [digitsFrom?_cons is_digit]
          split
          · next beyond =>
              constructor
              · rintro ⟨⟩
              · rintro ⟨found, small⟩
                have grown := le_of_digitsFrom? positive found
                omega
          · next inside => exact ih (Nat.le_of_not_lt inside)

theorem toNat_sub_lt_of_isDigit (is_digit : char.isDigit = true) :
    char.toNat - '0'.toNat < 10 := by
  rw [Char.isDigit_iff_toNat] at is_digit
  simp only [Char.reduceToNat] at is_digit ⊢
  omega

theorem digitChar_of_isDigit (is_digit : char.isDigit = true) :
    Nat.digitChar (char.toNat - '0'.toNat) = char := by
  apply Char.toNat_inj.mp
  rw [Nat.toNat_digitChar_of_lt_ten (toNat_sub_lt_of_isDigit is_digit)]
  rw [Char.isDigit_iff_toNat] at is_digit
  simp only [Char.reduceToNat] at is_digit ⊢
  omega

/-- Digits behind those of a positive number are those of the number that they make of it. -/
theorem toDigits_append {digits : List Char} (all_digits : ∀ digit ∈ digits, digit.isDigit = true)
    {value : Nat} (positive : 0 < value) :
    Nat.toDigits 10 value ++ digits = Nat.toDigits 10 (Nat.ofDigitChars 10 digits value) := by
  induction digits generalizing value with
  | nil => simp
  | cons digit digits ih =>
      rcases List.forall_mem_cons.mp all_digits with ⟨is_digit, later⟩
      have small := toNat_sub_lt_of_isDigit is_digit
      calc
        Nat.toDigits 10 value ++ digit :: digits =
            (Nat.toDigits 10 value ++ Nat.toDigits 10 (digit.toNat - '0'.toNat)) ++ digits := by
          rw [Nat.toDigits_of_lt_base small, digitChar_of_isDigit is_digit]
          simp
        _ = Nat.toDigits 10 (10 * value + (digit.toNat - '0'.toNat)) ++ digits := by
          rw [Nat.toDigits_append_toDigits (by decide) positive small]
        _ = _ := by rw [ih later (by omega), Nat.ofDigitChars_cons]

/-- Digits are those of their number, with zeros in front. -/
theorem exists_zeros {digits : List Char} (some_digit : digits ≠ [])
    (all_digits : ∀ digit ∈ digits, digit.isDigit = true) :
    ∃ zeros, digits =
      List.replicate zeros '0' ++ Nat.toDigits 10 (Nat.ofDigitChars 10 digits 0) := by
  induction digits with
  | nil => exact absurd rfl some_digit
  | cons digit digits ih =>
      rcases List.forall_mem_cons.mp all_digits with ⟨is_digit, later⟩
      rw [Nat.ofDigitChars_cons, Nat.mul_zero, Nat.zero_add]
      rcases Nat.eq_zero_or_pos (digit.toNat - '0'.toNat) with is_zero | positive
      · have digit_eq : digit = '0' := by
          rw [← digitChar_of_isDigit is_digit, is_zero]
          rfl
        rw [is_zero, digit_eq]
        -- The last zero is not in front of anything: it is the number itself.
        by_cases last : digits = []
        · subst last
          exact ⟨0, rfl⟩
        · rcases ih last later with ⟨zeros, digits_eq⟩
          exact ⟨zeros + 1, by rw [List.replicate_succ, List.cons_append, ← digits_eq]⟩
      · refine ⟨0, ?_⟩
        rw [← toDigits_append later positive,
          Nat.toDigits_of_lt_base (toNat_sub_lt_of_isDigit is_digit), digitChar_of_isDigit is_digit]
        rfl

end TapeAdmin.Text
