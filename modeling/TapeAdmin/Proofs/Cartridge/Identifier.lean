import TapeAdmin.Cartridge.Identifier
import TapeAdmin.Proofs.Text.Positional

/-!
# Spellings of attribute numbers

The texts by which an attribute is named: digits in base ten, or digits in base sixteen behind a
mark, with zeros and a plus sign in front or without, as long as their number fits into 16 bits. The
text that messages show for an attribute is one of them.
-/

namespace TapeAdmin.Attribute

open Text (Denotes)

/-- A text by which a number is given. -/
inductive NumberSpelling : List Char → Nat → Prop where
  | hexadecimal {mark : Char} {sign digits : List Char} {number : Nat}
      (is_mark : mark = 'x' ∨ mark = 'X') (is_sign : sign = [] ∨ sign = ['+'])
      (denotes : Denotes 16 digits number) :
      NumberSpelling ('0' :: mark :: (sign ++ digits)) number
  | decimal {sign digits : List Char} {number : Nat} (is_sign : sign = [] ∨ sign = ['+'])
      (denotes : Denotes 10 digits number) : NumberSpelling (sign ++ digits) number

variable {text : String} {number : Nat}

/-- No letter is a decimal digit, so a number with a mark is not one without. -/
theorem not_decimal_of_mark {mark : Char} {chars sign digits : List Char}
    (is_mark : mark = 'x' ∨ mark = 'X') (is_sign : sign = [] ∨ sign = ['+'])
    (parts : '0' :: mark :: chars = sign ++ digits) : ¬Denotes 10 digits number := by
  intro denotes
  have mark_mem : mark ∈ digits := by
    rcases is_sign with rfl | rfl
    · rw [List.nil_append] at parts
      simp [← parts]
    · cases parts
  have hex := denotes.isHexDigit (by decide) mark mark_mem
  rcases is_mark with rfl | rfl
  · exact absurd hex (by decide)
  · exact absurd hex (by decide)

theorem numberSpelling_of_mark_iff {mark : Char} {chars : List Char}
    (is_mark : mark = 'x' ∨ mark = 'X') :
    NumberSpelling ('0' :: mark :: chars) number ↔
      ∃ sign digits, (sign = [] ∨ sign = ['+']) ∧ chars = sign ++ digits ∧
        Denotes 16 digits number := by
  constructor
  · generalize parts : '0' :: mark :: chars = spelled
    intro spelling
    cases spelling with
    | @hexadecimal _ sign digits _ _ is_sign denotes =>
        cases parts
        exact ⟨sign, digits, is_sign, rfl, denotes⟩
    | decimal is_sign denotes => exact absurd denotes (not_decimal_of_mark is_mark is_sign parts)
  · rintro ⟨sign, digits, is_sign, rfl, denotes⟩
    exact .hexadecimal is_mark is_sign denotes

theorem numberSpelling_of_unmarked_iff {chars : List Char}
    (unmarked : ∀ mark rest, mark = 'x' ∨ mark = 'X' → chars ≠ '0' :: mark :: rest) :
    NumberSpelling chars number ↔
      ∃ sign digits, (sign = [] ∨ sign = ['+']) ∧ chars = sign ++ digits ∧
        Denotes 10 digits number := by
  constructor
  · intro spelling
    cases spelling with
    | hexadecimal is_mark => exact absurd rfl (unmarked _ _ is_mark)
    | @decimal sign digits _ is_sign denotes => exact ⟨sign, digits, is_sign, rfl, denotes⟩
  · rintro ⟨sign, digits, is_sign, rfl, denotes⟩
    exact .decimal is_sign denotes

theorem readNumber_eq_ok_iff :
    readNumber text = .ok number ↔ NumberSpelling text.toList number ∧ number ≤ idLimit := by
  have marked {mark : Char} (is_mark : mark = 'x' ∨ mark = 'X') (digits : List Char) :
      Text.readBounded 16 idLimit (String.ofList digits) = .ok number ↔
        NumberSpelling ('0' :: mark :: digits) number ∧ number ≤ idLimit := by
    rw [Text.readBounded_eq_ok_iff (by decide) (by decide), numberSpelling_of_mark_iff is_mark,
      String.toList_ofList]
    simp only [← and_assoc, exists_and_right]
  rw [readNumber]
  split
  · next digits chars => rw [chars, marked (.inl rfl)]
  · next digits chars => rw [chars, marked (.inr rfl)]
  · next small capital =>
      have unmarked : ∀ mark rest, mark = 'x' ∨ mark = 'X' → text.toList ≠ '0' :: mark :: rest := by
        rintro mark rest (rfl | rfl) chars
        · exact small rest chars
        · exact capital rest chars
      rw [Text.readBounded_eq_ok_iff (by decide) (by decide),
        numberSpelling_of_unmarked_iff unmarked]
      simp only [← and_assoc, exists_and_right]

/-- A text is read as an identifier exactly if it spells its number. -/
theorem readId_eq_ok_iff {id : UInt16} :
    readId text = .ok id ↔ NumberSpelling text.toList id.toNat := by
  have id_le : id.toNat ≤ idLimit := Nat.le_of_lt_succ id.toNat_lt
  rw [readId]
  cases read : readNumber text with
  | error fault =>
      have none_spelled : ¬NumberSpelling text.toList id.toNat := by
        intro spelling
        rw [readNumber_eq_ok_iff.mpr ⟨spelling, id_le⟩] at read
        cases read
      simp [none_spelled]
  | ok number =>
      rcases readNumber_eq_ok_iff.mp read with ⟨spelling, within⟩
      have small : (UInt16.ofNat number).toNat = number :=
        UInt16.toNat_ofNat_of_lt' (Nat.lt_succ_of_le within)
      simp only [Except.ok.injEq]
      constructor
      · rintro rfl
        rwa [small]
      · intro other
        have same := readNumber_eq_ok_iff.mpr ⟨other, id_le⟩
        rw [read] at same
        cases same
        exact UInt16.ofNat_toNat

/-- A text that is not read as an identifier spells no number of 16 bits, and the reason names it.
-/
theorem readId_outcome (text : String) :
    (∃ id, readId text = .ok id) ∨
      (∀ number, NumberSpelling text.toList number → 65535 < number) ∧
        ∃ fault : Text.NumberFault,
          readId text = .error ("invalid attribute id '" ++ text ++ "': " ++ fault.message) := by
  rw [readId]
  cases read : readNumber text with
  | ok number => exact .inl ⟨_, rfl⟩
  | error fault =>
      refine .inr ⟨fun number spelling => Nat.lt_of_not_le fun within => ?_, fault, rfl⟩
      rw [readNumber_eq_ok_iff.mpr ⟨spelling, within⟩] at read
      cases read

/-! ### The texts that are shown -/

theorem isDigitOf_hexDigitUpper {value : Nat} (below : value < 16) :
    Text.IsDigitOf 16 (Text.hexDigitUpper value) value := by
  have row : ∀ value : Fin 16,
      Text.digitRow[value.val]? = some (Text.hexDigitUpper value).toLower := by
    decide
  exact ⟨below, row ⟨value, below⟩⟩

/-- The four digits of an identifier denote its number. -/
theorem denotes_idDigits (id : UInt16) : Denotes 16 (idDigits id).toList id.toNat := by
  have id_lt := id.toNat_lt
  have digit (weight : Nat) := isDigitOf_hexDigitUpper (Nat.mod_lt (id.toNat / weight) (by decide))
  have four :=
    (((Denotes.digit (digit 4096)).append (digit 256)).append (digit 16)).append (digit 1)
  have sum : ((id.toNat / 4096 % 16 * 16 + id.toNat / 256 % 16) * 16 + id.toNat / 16 % 16) * 16 +
      id.toNat / 1 % 16 = id.toNat := by
    omega
  rw [sum] at four
  rw [idDigits, String.toList_ofList]
  exact four

/-- Digits of a number behind a mark are read as the number. -/
theorem readId_of_marked {id : UInt16} {digits : List Char} (denotes : Denotes 16 digits id.toNat) :
    readId ("0x" ++ String.ofList digits) = .ok id := by
  have chars : ("0x" ++ String.ofList digits).toList = '0' :: 'x' :: ([] ++ digits) := by simp
  rw [readId_eq_ok_iff, chars]
  exact .hexadecimal (.inl rfl) (.inl rfl) denotes

/--
A text is read as an identifier exactly if it spells the number of the identifier: in hexadecimal
digits, capital or small, behind `0x` or `0X`, or else in decimal digits, with any number of zeros
in front, and with or without a plus sign in front of them all. Every other text, which spells no
number or one beyond 16 bits, is refused with a reason that names it. So an identifier is read from
the text that messages show for it, and from its digits in either base, filled up with zeros to any
width.
-/
theorem readId_spelling :
    (∀ text : String,
      (∀ id : UInt16, readId text = .ok id ↔ NumberSpelling text.toList id.toNat) ∧
      ((∃ id, readId text = .ok id) ∨
        (∀ number, NumberSpelling text.toList number → 65535 < number) ∧
          ∃ fault : Text.NumberFault,
            readId text = .error ("invalid attribute id '" ++ text ++ "': " ++ fault.message))) ∧
    ∀ (id : UInt16) (width : Nat),
      readId (idText id) = .ok id ∧
      readId ("0x" ++ String.ofList ((Nat.toDigits 16 id.toNat).leftpad width '0')) = .ok id ∧
      readId (String.ofList ((Nat.toDigits 10 id.toNat).leftpad width '0')) = .ok id := by
  have written (base : Nat) (two_le : 2 ≤ base) (small : base ≤ 16) (number width : Nat) :
      Denotes base ((Nat.toDigits base number).leftpad width '0') number :=
    (Text.denotes_toDigits two_le small number).leftpad (by omega) width
  refine ⟨fun text => ⟨fun id => readId_eq_ok_iff, readId_outcome text⟩, ?_⟩
  intro id width
  refine ⟨?_, readId_of_marked (written 16 (by decide) (by decide) _ width), ?_⟩
  · have shown := readId_of_marked (denotes_idDigits id)
    rwa [String.ofList_toList] at shown
  · rw [readId_eq_ok_iff, String.toList_ofList]
    have denotes := written 10 (by decide) (by decide) id.toNat width
    have spelling := NumberSpelling.decimal (.inl rfl) denotes
    rwa [List.nil_append] at spelling

/-- Numbers of 16 bits at most are spelled in either base; the mark and the sign come in this order.
-/
example : readId "0X+00fFfF" = .ok 65535 ∧ readId "+065535" = .ok 65535 ∧
    (readId "65536").isOk = false ∧ (readId "+0x1").isOk = false := by
  decide

end TapeAdmin.Attribute
