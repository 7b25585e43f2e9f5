import Mathlib.Tactic.IntervalCases
import TapeAdmin.Proofs.Cartridge.RoundTrip

/-!
# Values that are accepted for an attribute

Which values may be written to an attribute follows from its format and its length. Printable text
and any text are measured in bytes. Binary data is given by hexadecimal digits, of which there may
be an odd number; in front of them any number of marks `0x` is accepted, and not just one.
-/

namespace TapeAdmin

namespace Attribute

/-- The identifiers of the attributes that the host may write follow one another. -/
theorem exists_writable?_iff {id : UInt16} :
    (∃ format length, writable? id = some (format, length)) ↔ 0x0800 ≤ id ∧ id ≤ 0x0806 := by
  rw [UInt16.le_iff_toNat_le, UInt16.le_iff_toNat_le]
  constructor
  · rintro ⟨format, length, writable⟩
    have table : ∀ entry ∈ writableTable, 0x0800 ≤ entry.1 ∧ entry.1 ≤ 0x0806 := by decide
    exact table _ (mem_writableTable writable)
  · rintro ⟨lower, upper⟩
    rw [writable?]
    simp only [UInt16.reduceToNat] at lower upper
    generalize id.toNat = number at lower upper
    interval_cases number <;> exact ⟨_, _, rfl⟩

/-- An attribute of text takes 160 bytes. -/
theorem length_of_writable?_text {id : UInt16} {length : Nat}
    (writable : writable? id = some (.text, length)) : length = 160 := by
  have table : ∀ entry ∈ writableTable, entry.2.1 = .text → entry.2.2 = 160 := by decide
  exact table _ (mem_writableTable writable) rfl

end Attribute

namespace AttributeWrite

/-! ### Marks in front of digits -/

/-- Digits with a number of marks `0x` in front. -/
def marked (digits : List Char) : Nat → List Char
  | 0 => digits
  | marks + 1 => '0' :: 'x' :: marked digits marks

/-- Every text is marks and the rest without them. -/
theorem exists_eq_marked (chars : List Char) :
    ∃ marks, chars = marked (withoutMarks chars) marks := by
  induction chars using withoutMarks.induct with
  | case1 rest ih =>
      rcases ih with ⟨marks, parts⟩
      refine ⟨marks + 1, ?_⟩
      rw [withoutMarks, marked, ← parts]
  | case2 chars unmarked =>
      refine ⟨0, ?_⟩
      rw [withoutMarks, marked]
      exact unmarked

/-- All marks are dropped in front of digits, since `x` is no digit. -/
theorem withoutMarks_marked {digits : List Char} (hex : ∀ char ∈ digits, Text.IsHexDigit char)
    (marks : Nat) : withoutMarks (marked digits marks) = digits := by
  induction marks with
  | zero =>
      rw [marked, withoutMarks]
      rintro rest rfl
      have mark : Text.IsHexDigit 'x' := hex 'x' (by simp)
      exact absurd mark (by decide)
  | succ marks ih => rw [marked, withoutMarks, ih]

/-! ### Pairs of digits -/

theorem length_of_hexPairs {position : Nat} {digits bytes : List UInt8}
    (read : hexPairs position digits = .ok bytes) : bytes.length = digits.length / 2 := by
  induction digits using List.twoStepInduction generalizing position bytes with
  | nil =>
      cases read
      rfl
  | singleton digit =>
      cases read
      simp
  | cons_cons high low rest ih =>
      rcases hexPairs_cons_cons_ok read with ⟨_, _, data, _, _, later, rfl⟩
      simp only [List.length_cons, ih later]
      omega

/-- Pairs of digits are read, whatever they are. -/
theorem exists_hexPairs {digits : List UInt8}
    (hex : ∀ digit ∈ digits, Text.IsHexDigit (Char.ofNat digit.toNat)) (position : Nat) :
    ∃ bytes, hexPairs position digits = .ok bytes := by
  induction digits using List.twoStepInduction generalizing position with
  | nil => exact ⟨[], rfl⟩
  | singleton digit => exact ⟨[], rfl⟩
  | cons_cons high low rest ih =>
      rcases Text.exists_digitValue? (hex high (by simp)) with ⟨highValue, highDigit⟩
      rcases Text.exists_digitValue? (hex low (by simp)) with ⟨lowValue, lowDigit⟩
      rcases ih (fun digit digit_mem => hex digit (by simp [digit_mem])) (position + 2) with
        ⟨bytes, later⟩
      simp [hexPairs, highDigit, lowDigit, later, bind, Except.bind, pure, Except.pure]

/-- Two digits make a byte, and an odd digit makes one as well. -/
theorem length_of_hexData {value : String} {data : List UInt8} (read : hexData value = .ok data) :
    data.length = ((withoutMarks value.toList).length + 1) / 2 := by
  have hex := Text.isHexDigit_of_digitsFrom? (hexData_ok read)
  have digits := Text.utf8_ofList_of_ascii fun char char_mem => (hex char char_mem).toNat_lt
  simp only [hexData, digits, List.length_map] at read
  have length := length_of_hexPairs read
  split at length
  · rw [length, List.length_cons, List.length_map]
  · rw [length, List.length_map]
    omega

theorem exists_hexData {value : String}
    (hex : ∀ char ∈ withoutMarks value.toList, Text.IsHexDigit char) :
    ∃ data, hexData value = .ok data := by
  have digits := Text.utf8_ofList_of_ascii fun char char_mem => (hex char char_mem).toNat_lt
  have bytes_hex : ∀ digit ∈ (withoutMarks value.toList).map fun char => UInt8.ofNat char.toNat,
      Text.IsHexDigit (Char.ofNat digit.toNat) := by
    intro digit digit_mem
    rcases List.mem_map.mp digit_mem with ⟨char, char_mem, rfl⟩
    have ascii := (hex char char_mem).toNat_lt
    have back : (UInt8.ofNat char.toNat).toNat = char.toNat := by
      rw [UInt8.toNat_ofNat']
      omega
    rw [back, Char.ofNat_toNat]
    exact hex char char_mem
  rw [hexData, digits]
  apply exists_hexPairs
  split
  · exact List.forall_mem_cons.mpr ⟨Or.inl (by decide), bytes_hex⟩
  · exact bytes_hex

/-! ### Values that suit an attribute -/

/--
A value suits an attribute of a format and a length. For binary data, the value has a number of
marks in front of its digits.
-/
def Suits (marks length : Nat) (value : String) : AttributeFormat → Prop
  | .ascii => (∀ char ∈ value.toList, ' ' ≤ char ∧ char ≤ '~') ∧ value.length ≤ length
  | .text => value.utf8ByteSize ≤ length
  | .binary => ∃ digits, value.toList = marked digits marks ∧
      (∀ char ∈ digits, Text.IsHexDigit char) ∧ digits.length ≤ 2 * length

variable {write : AttributeWrite} {format : AttributeFormat} {length : Nat}

/-- Text that can be printed in ASCII has one byte for each character. -/
theorem length_utf8_of_printable {value : String}
    (printable : ∀ char ∈ value.toList, ' ' ≤ char ∧ char ≤ '~') :
    (Text.utf8 value).length = value.length := by
  have ascii : ∀ char ∈ value.toList, char.toNat < 0x80 := by
    intro char char_mem
    exact Nat.lt_of_le_of_lt (Text.toNat_le_toNat (printable char char_mem).2) (by decide)
  have bytes := Text.utf8_ofList_of_ascii ascii
  rw [String.ofList_toList] at bytes
  rw [bytes, List.length_map, String.length_toList]

/-- The bytes of a value are found and fit into the attribute exactly if the value suits it. -/
theorem exists_rawData_iff :
    (∃ data, write.rawData format = .ok data ∧ data.length ≤ length) ↔
      ∃ marks, Suits marks length write.value format := by
  cases format with
  | ascii =>
      have printable_iff : write.value.toList.all isPrintable = true ↔
          ∀ char ∈ write.value.toList, ' ' ≤ char ∧ char ≤ '~' := by
        simp [isPrintable]
      simp only [rawData, Suits, exists_const]
      constructor
      · rintro ⟨data, raw, fits⟩
        split at raw
        · next all =>
            cases raw
            have printable := printable_iff.mp all
            rw [length_utf8_of_printable printable] at fits
            exact ⟨printable, fits⟩
        · cases raw
      · rintro ⟨printable, fits⟩
        rw [if_pos (printable_iff.mpr printable)]
        refine ⟨_, rfl, ?_⟩
        rw [length_utf8_of_printable printable]
        exact fits
  | text => simp [rawData, Suits, Text.length_utf8]
  | binary =>
      simp only [rawData, Suits]
      constructor
      · rintro ⟨data, raw, fits⟩
        rcases exists_eq_marked write.value.toList with ⟨marks, parts⟩
        have length_eq := length_of_hexData raw
        exact ⟨marks, _, parts, Text.isHexDigit_of_digitsFrom? (hexData_ok raw), by omega⟩
      · rintro ⟨marks, digits, parts, hex, fits⟩
        have rest := withoutMarks_marked hex marks
        rw [← parts] at rest
        rw [← rest] at hex fits
        rcases exists_hexData hex with ⟨data, raw⟩
        have length_eq := length_of_hexData raw
        exact ⟨data, raw, by omega⟩

theorem exists_record_iff :
    (∃ record, write.record = .ok record) ↔
      ∃ format length, Attribute.writable? write.id = some (format, length) ∧
        ∃ data, write.rawData format = .ok data ∧ data.length ≤ length := by
  constructor
  · rintro ⟨record, accepted⟩
    rcases record_ok accepted with ⟨format, length, data, writable, raw, fits, _⟩
    exact ⟨format, length, writable, data, raw, fits⟩
  · rintro ⟨format, length, writable, data, raw, fits⟩
    rw [AttributeWrite.record, writable]
    simp only [raw, bind, Except.bind, if_neg (Nat.not_lt.mpr fits)]
    exact ⟨_, rfl⟩

/--
A value is accepted exactly if the host may write the attribute and the value suits it, with any
number of marks. A value that is not accepted is refused as an invalid parameter.
-/
theorem encode_accepts_iff (write : AttributeWrite) :
    ((∃ data, write.encode = .ok data) ↔
        (0x0800 ≤ write.id ∧ write.id ≤ 0x0806) ∧
          ∀ format length, Attribute.writable? write.id = some (format, length) →
            ∃ marks, Suits marks length write.value format) ∧
      (∀ length, Attribute.writable? write.id = some (.text, length) → length = 160) ∧
      ∀ fault, write.encode = .error fault →
        ∀ (σ : Type) (host : Host σ) (device : FilePath) (world : World σ),
          (host.writeAttribute device write).run.run world =
            (.error (.invalidParameter fault.message), world) := by
  have encode_iff : (∃ data, write.encode = .ok data) ↔ ∃ record, write.record = .ok record := by
    simp [encode, map_eq_ok_iff]
  refine ⟨?_, fun _ => Attribute.length_of_writable?_text, ?_⟩
  · rw [encode_iff, exists_record_iff, ← Attribute.exists_writable?_iff]
    constructor
    · rintro ⟨format, length, writable, fitting⟩
      refine ⟨⟨format, length, writable⟩, ?_⟩
      intro other otherLength other_writable
      rw [writable] at other_writable
      cases other_writable
      exact exists_rawData_iff.mp fitting
    · rintro ⟨⟨format, length, writable⟩, suits⟩
      exact ⟨format, length, writable, exists_rawData_iff.mpr (suits format length writable)⟩
  · intro fault refused σ host device world
    rw [Host.writeAttribute, refused]
    rfl

/-- Digits behind two marks are accepted. -/
theorem encode_accepts_two_marks :
    (⟨0x0805, "0x0x7", 0⟩ : AttributeWrite).encode = .ok [0, 0, 0, 6, 8, 5, 0, 0, 1, 7] ∧
      Attribute.writable? 0x0805 = some (.binary, 1) ∧
      ¬∃ marks ≤ 1, Suits marks 1 "0x0x7" .binary := by
  refine ⟨by decide, by decide, ?_⟩
  rintro ⟨marks, at_most_one, digits, parts, hex, _⟩
  have mark : 'x' ∈ digits := by
    interval_cases marks
    · rw [marked] at parts
      rw [← parts]
      decide
    · rw [marked, marked] at parts
      rw [← (List.cons.inj (List.cons.inj parts).2).2]
      decide
  exact absurd (hex 'x' mark) (by decide)

end AttributeWrite

end TapeAdmin
