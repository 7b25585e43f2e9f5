import TapeAdmin.Proofs.Cartridge.RoundTrip
import TapeAdmin.Proofs.Text.Positional

/-!
# Binary attributes as they are shown

Up to eight bytes of binary data show as a number, and the word of 64 bits in which they are
gathered has room for all of them. More bytes show as hexadecimal digits. Either way nothing is
lost: data of a known length is told by what is shown of it.
-/

namespace TapeAdmin

namespace Text

/-- Small hexadecimal digits of bytes: for each byte those of its upper and of its lower half. -/
inductive HexText : List UInt8 → List Char → Prop where
  | nil : HexText [] []
  | cons {byte : UInt8} {bytes : List UInt8} {high low : Char} {digits : List Char}
      (upper_half : digitRow[byte.toNat / 16]? = some high)
      (lower_half : digitRow[byte.toNat % 16]? = some low) (later : HexText bytes digits) :
      HexText (byte :: bytes) (high :: low :: digits)

theorem getElem?_digitRow {value : Nat} (small : value < 16) :
    digitRow[value]? = some (hexDigit value) := by
  have row : ∀ value : Fin 16, digitRow[value.val]? = some (hexDigit value) := by decide
  exact row ⟨value, small⟩

theorem eq_of_getElem?_digitRow {value other : Nat} {char : Char}
    (here : digitRow[value]? = some char) (there : digitRow[other]? = some char) :
    value = other := by
  have distinct : digitRow.Nodup := by decide
  have inside : value < digitRow.length := (List.getElem?_eq_some_iff.mp here).1
  exact (List.getElem?_inj inside distinct).mp (here.trans there.symm)

theorem hexText_hexBytes (bytes : List UInt8) : HexText bytes (hexBytes bytes).toList := by
  rw [hexBytes, String.toList_ofList]
  induction bytes with
  | nil => exact .nil
  | cons byte bytes ih =>
      have byte_lt := byte.toNat_lt
      have upper_half := getElem?_digitRow (show byte.toNat / 16 < 16 by omega)
      have lower_half := getElem?_digitRow (show byte.toNat % 16 < 16 by omega)
      exact .cons upper_half lower_half ih

/-- Hexadecimal digits tell the bytes. -/
theorem HexText.unique {bytes others : List UInt8} {digits : List Char}
    (written : HexText bytes digits) (again : HexText others digits) : bytes = others := by
  induction written generalizing others with
  | nil =>
      cases again
      rfl
  | cons upper_half lower_half _ ih =>
      cases again with
      | cons other_upper other_lower later =>
          have upper_eq := eq_of_getElem?_digitRow upper_half other_upper
          have lower_eq := eq_of_getElem?_digitRow lower_half other_lower
          have bytes_eq := UInt8.toNat_inj.mp (Nat.ext_div_mod upper_eq lower_eq)
          rw [ih later, bytes_eq]

end Text

namespace Attribute

variable {item other : Attribute}

theorem display_of_long (binary : item.format = .binary) (long : 8 < item.data.length) :
    item.display = Text.hexBytes item.data := by
  simp [display, binary, Nat.not_le.mpr long]

theorem display_of_empty (binary : item.format = .binary) (empty : item.data = []) :
    item.display = "" := by
  simp [display, binary, empty, Text.hexBytes]

/-- Binary data of one length is told by what is shown of it. -/
theorem data_eq_of_display_eq (binary : item.format = .binary)
    (other_binary : other.format = .binary) (length_eq : other.data.length = item.data.length)
    (same : other.display = item.display) : other.data = item.data := by
  -- The length decides how data is shown, so both are shown in one way.
  rcases Nat.eq_zero_or_pos item.data.length with empty | nonempty
  · rw [empty] at length_eq
    rw [List.length_eq_zero_iff.mp empty, List.length_eq_zero_iff.mp length_eq]
  · rcases Nat.lt_or_ge 8 item.data.length with long | short
    · have item_digits := Text.hexText_hexBytes item.data
      have other_digits := Text.hexText_hexBytes other.data
      rw [← display_of_long other_binary (length_eq ▸ long), same,
        display_of_long binary long] at other_digits
      exact other_digits.unique item_digits
    · rw [display_of_number binary nonempty short,
        display_of_number other_binary (length_eq ▸ nonempty) (length_eq ▸ short)] at same
      exact Text.eq_of_ofBigEndian_eq length_eq (Text.eq_of_toString_eq same)

/-- The length has to be known, since zeros in front do not show. -/
example : (⟨3, .binary, true, [0, 5]⟩ : Attribute).display =
    (⟨3, .binary, true, [5]⟩ : Attribute).display := by
  decide

/--
Binary data is shown without loss. Up to eight bytes show as a number in decimal digits: the number
of which they are the digits in base 256. They are gathered in a word of 64 bits, which holds this
number in the end, and no byte that moves in pushes a bit out. More bytes show as small hexadecimal
digits, and no bytes as nothing. So binary data of one length that shows in the same way is the
same.
-/
theorem display_binary_lossless (binary : item.format = .binary) :
    (0 < item.data.length → item.data.length ≤ 8 →
      item.display.toList =
          Nat.toDigits 10 (Nat.ofDigits 256 (item.data.map UInt8.toNat).reverse) ∧
        (Text.gather item.data).toNat = Nat.ofDigits 256 (item.data.map UInt8.toNat).reverse ∧
        ∀ before byte behind, item.data = before ++ byte :: behind →
          Text.KeepsBits (Text.gather before) byte) ∧
      (item.data = [] → item.display = "") ∧
      (8 < item.data.length → Text.HexText item.data item.display.toList) ∧
      ∀ other : Attribute, other.format = .binary → other.data.length = item.data.length →
        other.display = item.display → other.data = item.data := by
  refine ⟨fun nonempty short => ⟨?_, ?_, ?_⟩, display_of_empty binary, fun long => ?_, ?_⟩
  · rw [display_of_number binary nonempty short, Nat.toString_eq_ofList_toDigits,
      String.toList_ofList, Text.ofBigEndian_eq_ofDigits]
  · rw [Text.toNat_gather short, Text.ofBigEndian_eq_ofDigits]
  · intro before byte behind parts
    rw [parts] at short
    exact Text.keepsBits_gather short
  · rw [display_of_long binary long]
    exact Text.hexText_hexBytes item.data
  · intro other other_binary length_eq same
    exact data_eq_of_display_eq binary other_binary length_eq same

/-- Eight bytes of ones fill the word, and a ninth turns the number into hexadecimal digits. -/
theorem display_binary_full :
    (⟨3, .binary, true, List.replicate 8 255⟩ : Attribute).display.toList =
        Nat.toDigits 10 (2 ^ 64 - 1) ∧
      Text.KeepsBits (Text.gather (List.replicate 7 255)) 255 ∧
      Text.HexText (List.replicate 9 255)
        (⟨3, .binary, true, List.replicate 9 255⟩ : Attribute).display.toList ∧
      (⟨4, .binary, false, [128, 0, 0, 0, 0, 0, 0, 0]⟩ : Attribute).display ≠
        (⟨3, .binary, true, List.replicate 8 255⟩ : Attribute).display ∧
      ∃ other : Attribute, other.id = 4 ∧
        other.display = (⟨3, .binary, true, List.replicate 8 255⟩ : Attribute).display ∧
        other.data = List.replicate 8 255 := by
  rcases @display_binary_lossless ⟨3, .binary, true, List.replicate 8 255⟩ rfl with
    ⟨number, _, _, lossless⟩
  rcases @display_binary_lossless ⟨3, .binary, true, List.replicate 9 255⟩ rfl with
    ⟨_, _, digits, _⟩
  rcases number (by decide) (by decide) with ⟨shown, _, kept⟩
  have value : Nat.ofDigits 256 ((List.replicate 8 255).map UInt8.toNat).reverse = 2 ^ 64 - 1 := by
    decide
  rw [value] at shown
  refine ⟨shown, kept (List.replicate 7 255) 255 [] rfl, digits (by decide), ?_, ?_⟩
  · intro same
    have data_eq := lossless ⟨4, .binary, false, [128, 0, 0, 0, 0, 0, 0, 0]⟩ rfl rfl same
    exact absurd data_eq (by decide)
  · have data_eq := lossless ⟨4, .binary, false, List.replicate 8 255⟩ rfl rfl rfl
    exact ⟨⟨4, .binary, false, List.replicate 8 255⟩, rfl, rfl, data_eq⟩

end Attribute

end TapeAdmin
